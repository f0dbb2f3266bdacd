import Mathlib
import RunHerald.Proofs.Url.PlainHost

/-!
# Addresses are read as they are written

An address is plain if it is written in the only way that needs no change: its scheme is that of the
web, its host is plain, its port is not the one of the scheme, nothing in it has to be escaped, and
no segment of its path stands for another place. A plain address is read back from its text, part by
part from left to right: `Url.parse_text`.
-/

set_option autoImplicit false

namespace RunHerald

/-- A text without characters that are escaped. -/
def Url.Bare (special : List Char) (s : String) : Prop :=
  ∀ c ∈ s.toList, 0x20 < c.toNat ∧ c.toNat < 0x7F ∧ c ∉ special

instance (special : List Char) (s : String) : Decidable (Url.Bare special s) :=
  decidable_of_iff _ List.all_iff_forall_prop

/-- A user and password that are written as they are. -/
structure UserInfo.Plain (user : UserInfo) : Prop where
  name : Url.Bare Url.userSet user.name
  password : ∀ p, user.password = some p → p ≠ "" ∧ Url.Bare Url.userSet p
  nonempty : user.name = "" → user.password ≠ none

instance (user : UserInfo) : Decidable user.Plain :=
  decidable_of_iff
    (Url.Bare Url.userSet user.name ∧
      (∀ p ∈ user.password, p ≠ "" ∧ Url.Bare Url.userSet p) ∧
      (user.name = "" → user.password ≠ none))
    ⟨fun ⟨a, b, c⟩ => ⟨a, b, c⟩, fun ⟨a, b, c⟩ => ⟨a, b, c⟩⟩

/-- An address that is read as it is written. -/
structure Url.Plain (u : Url) : Prop where
  scheme : u.scheme = "http" ∨ u.scheme = "https"
  user : ∀ user, u.user = some user → user.Plain
  host : ∃ h, u.host = some h ∧ h.Plain
  port : ∀ n, u.port = some n → n ≤ 65535 ∧ defaultPort u.scheme ≠ some n
  rooted : u.path ≠ []
  path : ∀ segment ∈ u.path, Bare (pathSet ++ ['/', '\\']) segment ∧
    isSingleDot segment.toList = false ∧ isDoubleDot segment.toList = false
  query : ∀ q, u.query = some q → Bare querySet q
  fragment : ∀ f, u.fragment = some f → Bare fragmentSet f

instance (u : Url) : Decidable u.Plain :=
  decidable_of_iff
    ((u.scheme = "http" ∨ u.scheme = "https") ∧ (∀ user ∈ u.user, user.Plain) ∧
      (∃ h ∈ u.host, h.Plain) ∧ (∀ n ∈ u.port, n ≤ 65535 ∧ Url.defaultPort u.scheme ≠ some n) ∧
      u.path ≠ [] ∧
      (∀ segment ∈ u.path, Url.Bare (Url.pathSet ++ ['/', '\\']) segment ∧
        Url.isSingleDot segment.toList = false ∧ Url.isDoubleDot segment.toList = false) ∧
      (∀ q ∈ u.query, Url.Bare Url.querySet q) ∧ ∀ f ∈ u.fragment, Url.Bare Url.fragmentSet f)
    ⟨fun ⟨a, b, c, d, e, f, g, h⟩ => ⟨a, b, c, d, e, f, g, h⟩,
      fun ⟨a, b, c, d, e, f, g, h⟩ => ⟨a, b, c, d, e, f, g, h⟩⟩

namespace Url

/-! ## The parts of the text -/

/-- A part that may be missing, after its sign. -/
def signed (sign : Char) (s : Option String) : List Char := (s.map fun s => sign :: s.toList).getD []

/-- A user and password without the sign after them. -/
def userBody (user : UserInfo) : List Char := user.name.toList ++ signed ':' user.password

/-- A user and password as they stand before a host. -/
def userChars (user : Option UserInfo) : List Char :=
  (user.map fun user => userBody user ++ ['@']).getD []

/-- A port as it stands after a host. -/
def portChars (port : Option Nat) : List Char := signed ':' (port.map toString)

/-- A path as it is written. -/
def pathChars (path : List String) : List Char := path.flatMap fun s => '/' :: s.toList

/-- A query and a fragment as they are written. -/
def endChars (query fragment : Option String) : List Char := signed '?' query ++ signed '#' fragment

/-- The text of an address part by part. -/
theorem toList_text (u : Url) {h : Host} (hhost : u.host = some h) :
    u.text.toList = u.scheme.toList ++ ':' :: '/' :: '/' :: (userChars u.user ++ (h.text.toList ++
      (portChars u.port ++ (pathChars u.path ++ endChars u.query u.fragment)))) := by
  have hpath : (String.join (u.path.map ("/" ++ ·))).toList = pathChars u.path := by
    rw [String.toList_join, pathChars, List.flatMap_map]
    exact List.flatMap_congr fun s _ => String.toList_append
  have huser : ∀ user : UserInfo, user.text.toList = userBody user ++ ['@'] := by
    rintro ⟨name, _ | password⟩ <;> simp [UserInfo.text, userBody, signed]
  simp only [text, hhost, String.toList_append, hpath, endChars, List.append_assoc]
  cases u.user <;> cases u.port <;> cases u.query <;> cases u.fragment <;>
    simp [userChars, portChars, signed, huser]

/-- A part that may be missing holds its sign and its characters. -/
theorem mem_signed {sign c : Char} {s : Option String} (h : c ∈ signed sign s) :
    c = sign ∨ ∃ t, s = some t ∧ c ∈ t.toList := by
  cases s with
  | none => cases h
  | some t => exact (List.mem_cons.1 h).imp_right fun hc => ⟨t, rfl, hc⟩

/-- A part that may be missing begins with its sign. -/
theorem head?_signed {sign c : Char} {s : Option String} (h : c ∈ (signed sign s).head?) :
    c = sign := by
  cases s with
  | none => cases h
  | some t => exact (Option.some.inj h).symm

/-- A query and a fragment begin with one of their signs. -/
theorem head?_endChars {query fragment : Option String} {c : Char}
    (h : c ∈ (endChars query fragment).head?) : c = '?' ∨ c = '#' := by
  cases query with
  | none => exact Or.inr (head?_signed h)
  | some q => exact Or.inl (Option.some.inj h).symm

/-- The longest beginning with a property ends where the property does. -/
theorem span_append {p : Char → Bool} {cs rest : List Char} (hcs : ∀ c ∈ cs, p c = true)
    (hrest : ∀ c ∈ rest.head?, p c = false) : (cs ++ rest).span p = (cs, rest) := by
  rw [List.span_eq_takeWhile_dropWhile, List.takeWhile_append_of_pos hcs,
    List.dropWhile_append_of_pos hcs]
  cases rest with
  | nil => simp
  | cons c rest => simp [hrest c rfl]

/-- A text without characters that are escaped is written as it is. -/
theorem escaped_of_bare {special : List Char} {s : String} (h : Bare special s) :
    escaped special s.toList = s := by
  have hsingle : ∀ c ∈ s.toList,
      (if c.toNat < 0x20 || 0x7F ≤ c.toNat || c ∈ special then escape c else [c]) = [c] := by
    intro c hc
    obtain ⟨hlow, hhigh, hspecial⟩ := h c hc
    rw [if_neg]
    simp [hspecial]
    omega
  rw [escaped, List.flatMap_congr hsingle, List.flatMap_singleton', String.ofList_toList]

/-- No character that is escaped stands in such a text. -/
theorem Bare.ne {special : List Char} {s : String} (h : Bare special s) {c d : Char}
    (hc : c ∈ s.toList) (hd : d ∈ special) : c ≠ d := by
  rintro rfl
  exact (h c hc).2.2 hd

/-- A plain address stays plain with one more segment that is written as it is. -/
theorem Plain.enter {u : Url} (hu : u.Plain) {segment : String}
    (h : Bare (pathSet ++ ['/', '\\']) segment ∧
      isSingleDot segment.toList = false ∧ isDoubleDot segment.toList = false) :
    ({ u with path := u.path ++ [segment] } : Url).Plain :=
  { hu with
    rooted := List.append_ne_nil_of_right_ne_nil _ (List.cons_ne_nil _ _)
    path := List.forall_mem_append.2 ⟨hu.path, List.forall_mem_singleton.2 h⟩ }

/-! ## Path, query and fragment -/

section

variable {path : List String}

/-- Segments that stand for themselves are resolved to themselves. -/
theorem resolve_bare (hne : path ≠ []) (h : ∀ s ∈ path, Bare pathSet s ∧
    isSingleDot s.toList = false ∧ isDoubleDot s.toList = false) (done : List String) :
    resolve done (path.map String.toList) = done.reverse ++ path := by
  induction path generalizing done with
  | nil => exact absurd rfl hne
  | cons s path ih =>
    rw [List.forall_mem_cons] at h
    obtain ⟨⟨hbare, hsingle, hdouble⟩, hrest⟩ := h
    cases path with
    | nil => simp [resolve, hsingle, hdouble, escaped_of_bare hbare]
    | cons t path =>
      have hnext := ih (List.cons_ne_nil t path) hrest (s :: done)
      rw [List.map_cons] at hnext
      simp [resolve, hsingle, hdouble, escaped_of_bare hbare, hnext]

/-- A path after its first slash is its segments with slashes between. -/
theorem pathChars_cons (s : String) (path : List String) :
    pathChars (s :: path) = '/' :: ['/'].intercalate ((s :: path).map String.toList) := by
  induction path generalizing s with
  | nil => simp [pathChars, List.intercalate]
  | cons t path ih =>
    have hstep : pathChars (s :: t :: path) = '/' :: s.toList ++ pathChars (t :: path) := rfl
    rw [hstep, ih]
    simp only [List.map_cons, List.intercalate_cons_cons, List.cons_append, List.append_assoc,
      List.nil_append]

/-- The segments of a path are cut at the slashes between. -/
theorem splitOn_pathChars (hne : path ≠ []) (h : ∀ s ∈ path, '/' ∉ s.toList) :
    ((pathChars path).drop 1).splitOn '/' = path.map String.toList := by
  cases path with
  | nil => exact absurd rfl hne
  | cons s path =>
    rw [pathChars_cons, List.drop_one, List.tail_cons, List.splitOn_intercalate]
    · rwa [List.forall_mem_map]
    · simp

end

/-- A path that is not empty begins with a slash. -/
theorem Plain.head?_pathChars {u : Url} (hu : u.Plain) : (pathChars u.path).head? = some '/' := by
  obtain ⟨s, path, hpath⟩ := List.exists_cons_of_ne_nil hu.rooted
  rw [hpath, pathChars_cons, List.head?_cons]

/-- The characters of a plain path are slashes and those of its segments. -/
theorem Plain.mem_pathChars {u : Url} (hu : u.Plain) {c : Char} (h : c ∈ pathChars u.path) :
    c = '/' ∨ 0x20 < c.toNat ∧ c ≠ '?' ∧ c ≠ '#' ∧ c ≠ '\\' := by
  obtain ⟨s, hs, hc⟩ := List.mem_flatMap.1 h
  refine (List.mem_cons.1 hc).imp_right fun hc => ?_
  have hbare := (hu.path s hs).1
  exact ⟨(hbare c hc).1, hbare.ne hc (by decide), hbare.ne hc (by decide), hbare.ne hc (by decide)⟩

/-- The segments of a plain path are read as they are written. -/
theorem Plain.resolve_eq {u : Url} (hu : u.Plain) :
    resolve [] (((pathChars u.path).drop 1).splitOn '/') = u.path := by
  rw [splitOn_pathChars hu.rooted, resolve_bare hu.rooted]
  · rfl
  · intro s hs
    obtain ⟨hbare, hdots⟩ := hu.path s hs
    refine ⟨fun c hc => ?_, hdots⟩
    obtain ⟨hlow, hhigh, hspecial⟩ := hbare c hc
    exact ⟨hlow, hhigh, fun hmem => hspecial (List.mem_append_left _ hmem)⟩
  · exact fun s hs hslash => (hu.path s hs).1.ne hslash (d := '/') (by decide) rfl

/-- Path, query and fragment of a plain address are read as they are written. -/
theorem Plain.readTail_eq {u : Url} (hu : u.Plain) (scheme : String) (user : Option UserInfo)
    (host : Option Host) (port : Option Nat) :
    readTail scheme user host port (pathChars u.path ++ endChars u.query u.fragment) =
      ⟨scheme, user, host, port, u.path, u.query, u.fragment⟩ := by
  have hspan : (pathChars u.path ++ endChars u.query u.fragment).span
      (fun c => c ≠ '?' && c ≠ '#') = (pathChars u.path, endChars u.query u.fragment) := by
    apply span_append
    · intro c hc
      rcases hu.mem_pathChars hc with rfl | ⟨-, hquery, hfragment, -⟩
      · rfl
      · simp [hquery, hfragment]
    · intro c hc
      rcases head?_endChars hc with rfl | rfl <;> rfl
  have hforward : (pathChars u.path).map (fun c => if c = '\\' then '/' else c) = pathChars u.path := by
    rw [List.map_congr_left (g := id), List.map_id]
    intro c hc
    rcases hu.mem_pathChars hc with rfl | ⟨-, -, -, hback⟩
    · rfl
    · rw [if_neg hback, id]
  have hfragment : ∀ f, u.fragment = some f → escaped fragmentSet f.toList = f :=
    fun f hf => escaped_of_bare (hu.fragment f hf)
  simp only [readTail, hspan, hforward, if_pos hu.head?_pathChars, hu.resolve_eq]
  cases hq : u.query with
  | none => cases hf : u.fragment <;> simp [endChars, signed, hfragment, hf]
  | some q =>
    have hbare := hu.query q hq
    have hcut : (q.toList ++ signed '#' u.fragment).span (· ≠ '#') =
        (q.toList, signed '#' u.fragment) := by
      apply span_append
      · exact fun c hc => decide_eq_true (hbare.ne hc (by decide))
      · intro c hc
        rw [head?_signed hc]
        rfl
    have hchars : endChars (some q) u.fragment = '?' :: (q.toList ++ signed '#' u.fragment) := rfl
    simp only [hchars, hcut, escaped_of_bare hbare]
    cases hf : u.fragment <;> simp [signed, hfragment, hf]

/-! ## User, host and port -/

/-- The characters of a plain user and password are visible and do not end the part with the host.
-/
theorem mem_userBody {user : UserInfo} (h : user.Plain) {c : Char} (hc : c ∈ userBody user) :
    0x20 < c.toNat ∧ endsAuthority true c = false := by
  have hbare : ∀ s, Bare userSet s → c ∈ s.toList →
      0x20 < c.toNat ∧ endsAuthority true c = false := by
    intro s hs hc
    have hne : ∀ d ∈ userSet, c ≠ d := fun d hd => hs.ne hc hd
    refine ⟨(hs c hc).1, ?_⟩
    simp [endsAuthority, hne '/' (by decide), hne '?' (by decide), hne '#' (by decide),
      hne '\\' (by decide)]
  rcases List.mem_append.1 hc with hc | hc
  · exact hbare _ h.name hc
  · rcases mem_signed hc with rfl | ⟨p, hp, hc⟩
    · decide
    · exact hbare p (h.password p hp).2 hc

/-- A user and password as they stand before a host do not end the part with the host. -/
theorem mem_userChars {user : Option UserInfo} (h : ∀ u, user = some u → u.Plain) {c : Char}
    (hc : c ∈ userChars user) : 0x20 < c.toNat ∧ endsAuthority true c = false := by
  cases user with
  | none => cases hc
  | some u =>
    rcases List.mem_append.1 hc with hc | hc
    · exact mem_userBody (h u rfl) hc
    · obtain rfl := List.mem_singleton.1 hc
      decide

/-- A plain user and password are read as they are written. -/
theorem userOf_userBody {user : UserInfo} (h : user.Plain) : userOf (userBody user) = some user := by
  have hspan : (userBody user).span (· ≠ ':') = (user.name.toList, signed ':' user.password) := by
    apply span_append
    · exact fun c hc => decide_eq_true (h.name.ne hc (by decide))
    · intro c hc
      rw [head?_signed hc]
      rfl
  have hname := escaped_of_bare h.name
  obtain ⟨name, password⟩ := user
  rw [userOf, hspan]
  cases password with
  | none =>
    have hne : name ≠ "" := fun hempty => h.nonempty hempty rfl
    simp [signed, hname, hne]
  | some p =>
    obtain ⟨hne, hbare⟩ := h.password p rfl
    simp [signed, hname, hne, escaped_of_bare hbare]

/-- A plain user and password are read before a host and its port. -/
theorem readUser_plain {user : Option UserInfo} (huser : ∀ u, user = some u → u.Plain)
    {site after : List Char} (hne : site ≠ [])
    (hsite : ∀ c ∈ site, c ≠ '@' ∧ endsAuthority true c = false)
    (hafter : ∀ c ∈ after.head?, endsAuthority true c = true) :
    readUser true (userChars user ++ (site ++ after)) = .ok (user, site ++ after) := by
  have hspan : (userChars user ++ (site ++ after)).span (fun c => !endsAuthority true c) =
      (userChars user ++ site, after) := by
    rw [← List.append_assoc]
    apply span_append
    · intro c hc
      rcases List.mem_append.1 hc with hc | hc
      · simp [(mem_userChars huser hc).2]
      · simp [(hsite c hc).2]
    · intro c hc
      simp [hafter c hc]
  -- from the end of the part, the first sign is the one after the user
  have hback : ∀ c ∈ site.reverse, decide (c ≠ '@') = true :=
    fun c hc => decide_eq_true (hsite c (List.mem_reverse.1 hc)).1
  have htail : ((userChars user ++ site).reverse.takeWhile (· ≠ '@')).reverse = site := by
    rw [List.reverse_append, List.takeWhile_append_of_pos hback]
    cases user <;> simp [userChars]
  simp only [readUser, hspan, htail]
  cases user with
  | none => simp [userChars]
  | some u =>
    have hlength : (userChars (some u) ++ site).length = (userBody u).length + 1 + site.length := by
      rw [List.length_append]
      exact congrArg (· + site.length) List.length_append
    have htake : (userChars (some u) ++ site).take
        ((userBody u).length + 1 + site.length - site.length - 1) = userBody u := by
      rw [Nat.add_sub_cancel, Nat.add_sub_cancel]
      simp [userChars]
    rw [hlength, if_neg (by omega), htake, if_neg (by simp [hne]), userOf_userBody (huser u rfl)]

/-- The characters of hosts do not end a host. -/
theorem nameChars_site : ∀ c ∈ Host.nameChars, 0x20 < c.toNat ∧ c ≠ ':' ∧ c ≠ '@' ∧
    endsAuthority true c = false ∧ c ≠ '[' ∧ c ≠ ']' :=
  List.all_iff_forall_prop.1 (by decide)

/-- A host of the characters of hosts is cut off at a colon or at the end of the part. -/
theorem cutHost_name {name rest : List Char} (hname : ∀ c ∈ name, c ∈ Host.nameChars)
    (hrest : ∀ c ∈ rest.head?, c = ':' ∨ endsAuthority true c = true) :
    cutHost true false (name ++ rest) = (name, rest) := by
  induction name with
  | nil =>
    cases rest with
    | nil => rfl
    | cons c rest =>
      rcases hrest c rfl with rfl | hend
      · rfl
      · simp [cutHost, hend]
  | cons c name ih =>
    rw [List.forall_mem_cons] at hname
    obtain ⟨-, hcolon, -, hend, hopen, hclose⟩ := nameChars_site c hname.1
    simp [cutHost, hcolon, hend, hopen, hclose, ih hname.2]

/-- The digits of a number. -/
theorem isDigit_of_mem_toString {n : Nat} {c : Char} (h : c ∈ (toString n).toList) :
    c.isDigit = true := by
  rw [show (toString n).toList = Nat.toDigits 10 n from String.toList_ofList] at h
  exact Nat.isDigit_of_mem_toDigits (by decide) (by decide) h

/-- Digits are visible and do not end the part with the host. -/
theorem site_of_isDigit {c : Char} (h : c.isDigit = true) :
    0x20 < c.toNat ∧ c ≠ '@' ∧ endsAuthority true c = false := by
  have hlow : 48 ≤ c.toNat := by
    rw [Char.isDigit, Bool.and_eq_true, decide_eq_true_eq] at h
    exact h.1
  refine ⟨Nat.lt_of_lt_of_le (by decide) hlow, ?_, ?_⟩
  · rintro rfl
    cases h
  · simp only [endsAuthority, Bool.true_and, Bool.or_eq_false_iff, decide_eq_false_iff_not]
    refine ⟨⟨⟨?_, ?_⟩, ?_⟩, ?_⟩ <;> rintro rfl <;> cases h

/-- What stands between a host and a path. -/
theorem mem_portChars {port : Option Nat} {c : Char} (h : c ∈ portChars port) :
    0x20 < c.toNat ∧ c ≠ '@' ∧ endsAuthority true c = false := by
  rcases mem_signed h with rfl | ⟨t, ht, hc⟩
  · decide
  · obtain ⟨n, -, rfl⟩ := Option.map_eq_some_iff.1 ht
    exact site_of_isDigit (isDigit_of_mem_toString hc)

/-- A port that has to be written is read before a path. -/
theorem readPort_toString {scheme : String} {n : Nat} (hn : n ≤ 65535)
    (hwritten : defaultPort scheme ≠ some n) {rest : List Char} (hrest : rest.head? = some '/') :
    readPort scheme ((toString n).toList ++ rest) = .ok (some n, rest) := by
  have hspan : ((toString n).toList ++ rest).span Char.isDigit = ((toString n).toList, rest) := by
    apply span_append
    · exact fun c hc => isDigit_of_mem_toString hc
    · intro c hc
      rw [hrest] at hc
      obtain rfl := Option.some.inj hc
      rfl
  have hdigits : (toString n).toList = Nat.toDigits 10 n := String.toList_ofList
  have hvalue : numeralValue (toString n).toList = n := by
    rw [hdigits, numeralValue_eq_ofDigitChars, Nat.ofDigitChars_toDigits (by decide) (by decide)]
  have hport : portToWrite scheme (toString n).toList = some n := by
    rw [portToWrite, hvalue, if_neg]
    rintro (hempty | hdefault)
    · rw [hdigits] at hempty
      exact Nat.toDigits_ne_nil hempty
    · exact hwritten hdefault.symm
  obtain ⟨rest, rfl⟩ : ∃ tail, rest = '/' :: tail := List.head?_eq_some_iff.1 hrest
  simp only [readPort, hspan, hvalue, hport]
  rw [if_neg (by omega), if_pos (by decide)]

/-! ## The whole address -/

/-- A text without controls and spaces is clean. -/
theorem clean_of_visible {s : String} (h : ∀ c ∈ s.toList, 0x20 < c.toNat) : clean s = s.toList := by
  have hedge : ∀ cs : List Char, (∀ c ∈ cs, 0x20 < c.toNat) →
      cs.dropWhile (fun c => decide (c.toNat ≤ 0x20)) = cs := by
    intro cs hcs
    cases cs with
    | nil => rfl
    | cons c cs =>
      have hc := hcs c List.mem_cons_self
      rw [List.dropWhile_cons_of_neg]
      simpa using hc
  have hreverse : ∀ c ∈ s.toList.reverse, 0x20 < c.toNat :=
    fun c hc => h c (List.mem_reverse.1 hc)
  simp only [clean, hedge _ h, hedge _ hreverse, List.reverse_reverse]
  rw [List.filter_eq_self]
  intro c hc
  have hlow := h c hc
  simp only [decide_eq_true_eq]
  refine ⟨?_, ?_, ?_⟩ <;> rintro rfl <;> exact absurd hlow (by decide)

/-- The schemes of the web are read as they are. -/
theorem cutScheme_web {scheme : String} (h : scheme = "http" ∨ scheme = "https")
    (rest : List Char) : cutScheme (scheme.toList ++ ':' :: rest) = some (scheme, rest) := by
  have hspan : (scheme.toList ++ ':' :: rest).span isSchemeChar = (scheme.toList, ':' :: rest) := by
    apply span_append
    · rcases h with rfl | rfl <;> exact List.all_eq_true.1 (by decide)
    · intro c hc
      obtain rfl := Option.some.inj hc
      rfl
  rw [cutScheme, hspan]
  rcases h with rfl | rfl <;> rfl

/-- No character of a plain address is a control or a space. -/
theorem Plain.visible {u : Url} (hu : u.Plain) : ∀ c ∈ u.text.toList, 0x20 < c.toNat := by
  obtain ⟨host, hhost, hplain⟩ := hu.host
  rw [toList_text u hhost]
  simp only [List.forall_mem_append, List.forall_mem_cons]
  refine ⟨?_, by decide, by decide, by decide, fun c hc => (mem_userChars hu.user hc).1,
    fun c hc => (nameChars_site c (hplain.nameChars.2 c hc)).1, fun c hc => (mem_portChars hc).1,
    ?_, ?_⟩
  · rcases hu.scheme with h | h <;> rw [h] <;> exact List.all_iff_forall_prop.1 (by decide)
  · intro c hc
    rcases hu.mem_pathChars hc with rfl | hvisible
    · decide
    · exact hvisible.1
  · intro c hc
    rcases List.mem_append.1 hc with hc | hc
    · rcases mem_signed hc with rfl | ⟨q, hq, hc⟩
      · decide
      · exact (hu.query q hq c hc).1
    · rcases mem_signed hc with rfl | ⟨f, hf, hc⟩
      · decide
      · exact (hu.fragment f hf c hc).1

/-- What comes after a host is a port, or ends the part with the host. -/
theorem head?_portChars {port : Option Nat} {tail : List Char} (hslash : tail.head? = some '/')
    {c : Char} (hc : c ∈ (portChars port ++ tail).head?) :
    c = ':' ∨ endsAuthority true c = true := by
  cases port with
  | none =>
    rw [portChars, Option.map_none, signed, Option.map_none, Option.getD_none, List.nil_append,
      hslash] at hc
    obtain rfl := Option.some.inj hc
    exact Or.inr rfl
  | some n => exact Or.inl (Option.some.inj hc).symm

/-- What stands in a plain address after the slashes is read as it is written. -/
theorem Plain.readAuthority_eq {u : Url} (hu : u.Plain) {host : Host} (hhost : u.host = some host)
    (hplain : host.Plain) :
    readAuthority u.scheme true (userChars u.user ++ (host.text.toList ++
      (portChars u.port ++ (pathChars u.path ++ endChars u.query u.fragment)))) = .ok u := by
  obtain ⟨hne, hname⟩ := hplain.nameChars
  generalize htail : pathChars u.path ++ endChars u.query u.fragment = tail
  have hslash : tail.head? = some '/' := by
    rw [← htail, List.head?_append, hu.head?_pathChars]
    rfl
  have huser : readUser true (userChars u.user ++ (host.text.toList ++ (portChars u.port ++ tail))) =
      .ok (u.user, host.text.toList ++ (portChars u.port ++ tail)) := by
    rw [← List.append_assoc host.text.toList]
    apply readUser_plain hu.user
    · simp [hne]
    · intro c hc
      rcases List.mem_append.1 hc with hc | hc
      · obtain ⟨-, -, hsign, hend, -⟩ := nameChars_site c (hname c hc)
        exact ⟨hsign, hend⟩
      · exact (mem_portChars hc).2
    · intro c hc
      rw [hslash] at hc
      obtain rfl := Option.some.inj hc
      rfl
  have hhostCut : cutHost true false (host.text.toList ++ (portChars u.port ++ tail)) =
      (host.text.toList, portChars u.port ++ tail) := by
    exact cutHost_name hname fun c hc => head?_portChars hslash hc
  have hread : readTail u.scheme u.user (some host) u.port tail = u := by
    rw [← htail, hu.readTail_eq, ← hhost]
  have hempty : host.text.toList.isEmpty = false := by simpa using hne
  obtain ⟨rest, rfl⟩ : ∃ rest, tail = '/' :: rest := List.head?_eq_some_iff.1 hslash
  simp only [readAuthority, huser, hhostCut, hempty, Host.read_text hplain, bind, Except.bind,
    Bool.and_false, Bool.false_and, Bool.false_eq_true, if_false, if_true]
  cases hport : u.port with
  | none =>
    rw [hport] at hread
    exact congrArg Except.ok hread
  | some n =>
    obtain ⟨hn, hwritten⟩ := hu.port n hport
    have hdigits : readPort u.scheme ((toString n).toList ++ '/' :: rest) =
        .ok (some n, '/' :: rest) := readPort_toString hn hwritten rfl
    have hchars : portChars (some n) ++ '/' :: rest = ':' :: ((toString n).toList ++ '/' :: rest) := rfl
    rw [hport] at hread
    simp only [hchars, hdigits]
    exact congrArg Except.ok hread

/-- A plain address is read as it is written. -/
theorem parse_text {u : Url} (hu : u.Plain) : parse u.text = .ok u := by
  obtain ⟨host, hhost, hplain⟩ := hu.host
  have hread := hu.readAuthority_eq hhost hplain
  have hslashes : ∀ cs : List Char, (∀ c ∈ cs.head?, endsAuthority true c = false) →
      ('/' :: '/' :: cs).dropWhile (fun c => c = '/' || c = '\\') = cs := by
    intro cs hcs
    cases cs with
    | nil => rfl
    | cons c cs =>
      have hend := hcs c rfl
      simp only [endsAuthority, Bool.true_and, Bool.or_eq_false_iff, decide_eq_false_iff_not] at hend
      simp [hend]
  have hrules : rulesOf u.scheme = .web := by
    rcases hu.scheme with h | h <;> rw [h] <;> rfl
  rw [parse, clean_of_visible hu.visible, toList_text u hhost, cutScheme_web hu.scheme]
  simp only [hrules]
  rw [hslashes, hread]
  intro c hc
  rw [← List.append_assoc, List.head?_append_of_ne_nil _ (by simp [hplain.nameChars.1])] at hc
  rcases List.mem_append.1 (List.mem_of_mem_head? hc) with hc | hc
  · exact (mem_userChars hu.user hc).2
  · exact (nameChars_site c (hplain.nameChars.2 c hc)).2.2.2.1

end Url

end RunHerald
