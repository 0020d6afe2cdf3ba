import Mathlib

/-!
# Stripping the userinfo of URLs

One pass looks for `://`, copies it, and takes what follows up to a delimiter for the authority. An
authority that ends with a colon can take the colon of a second separator with it, and the authority
behind that one is copied as it is.
-/

namespace FuboxApi.UrlUserinfo

def inAuthority (char : Char) : Bool :=
  char ∉ ['/', '?', '#', ' ', '\t', '\r', '\n']

/-- What stands at the beginning of a text up to a delimiter. -/
def authorityOf (text : List Char) : List Char :=
  text.takeWhile inAuthority

/-- `rsplit_once` at the last at sign; an authority without one is all host. -/
def host (authority : List Char) : List Char :=
  authority.rtakeWhile (· ≠ '@')

def stripUrlUserinfo : List Char → List Char
  | ':' :: '/' :: '/' :: rest =>
    ':' :: '/' :: '/' :: (host (authorityOf rest) ++ stripUrlUserinfo (rest.dropWhile inAuthority))
  | char :: rest => char :: stripUrlUserinfo rest
  | [] => []
termination_by text => text.length
decreasing_by
  · have shorter := List.length_dropWhile_le inAuthority rest
    simp only [List.length_cons]
    omega
  · simp

/-- The authorities that the pass meets, each with the text behind it. -/
def authorities : List Char → List (List Char × List Char)
  | ':' :: '/' :: '/' :: rest =>
    (authorityOf rest, rest.dropWhile inAuthority) :: authorities (rest.dropWhile inAuthority)
  | _ :: rest => authorities rest
  | [] => []
termination_by text => text.length
decreasing_by
  · have shorter := List.length_dropWhile_le inAuthority rest
    simp only [List.length_cons]
    omega
  · simp

/-- Some separator of the text is followed by an authority with an at sign. -/
def Exposes (text : List Char) : Prop :=
  ∃ rest, ':' :: '/' :: '/' :: rest <:+ text ∧ '@' ∈ authorityOf rest

/-- The second text is the first, but for authorities that are cut at their beginning. -/
inductive DiffersInAuthorities : List Char → List Char → Prop
  | same (text : List Char) : DiffersInAuthorities text text
  | cut {gap rest kept stripped : List Char} (suffix : kept <:+ authorityOf rest)
      (behind : DiffersInAuthorities (rest.dropWhile inAuthority) stripped) :
      DiffersInAuthorities (gap ++ ':' :: '/' :: '/' :: rest)
        (gap ++ ':' :: '/' :: '/' :: (kept ++ stripped))

/-- The authority ends with the colon of a separator, and the one behind has an at sign. -/
def HidesSeparator (authority behind : List Char) : Prop :=
  authority.getLast? = some ':' ∧ ∃ rest, behind = '/' :: '/' :: rest ∧ '@' ∈ authorityOf rest

theorem DiffersInAuthorities.cons {text stripped : List Char} (char : Char)
    (differs : DiffersInAuthorities text stripped) :
    DiffersInAuthorities (char :: text) (char :: stripped) := by
  cases differs with
  | same => exact .same _
  | @cut gap rest kept stripped suffix behind =>
    exact @DiffersInAuthorities.cut (char :: gap) rest kept stripped suffix behind

theorem differsInAuthorities_stripUrlUserinfo (text : List Char) :
    DiffersInAuthorities text (stripUrlUserinfo text) := by
  fun_induction stripUrlUserinfo text with
  | case1 rest ih =>
    exact @DiffersInAuthorities.cut [] rest _ _ (List.rtakeWhile_suffix _ _) ih
  | case2 char rest _ ih => exact ih.cons char
  | case3 => exact .same []

theorem stripUrlUserinfo_eq_slash_iff {text rest : List Char} :
    stripUrlUserinfo text = '/' :: rest ↔
      ∃ behind, text = '/' :: behind ∧ stripUrlUserinfo behind = rest := by
  fun_cases stripUrlUserinfo text with
  | case1 => simp
  | case2 char behind _ => simp
  | case3 => simp

theorem authorityOf_stripUrlUserinfo (text : List Char) :
    authorityOf (stripUrlUserinfo text) = authorityOf text := by
  fun_induction stripUrlUserinfo text with
  | case1 rest _ => simp [authorityOf, inAuthority]
  | case2 char rest _ ih =>
    simp only [authorityOf, List.takeWhile_cons] at ih ⊢
    rw [ih]
  | case3 => rfl

theorem exposes_cons_iff {char : Char} {text : List Char} : Exposes (char :: text) ↔
    (char = ':' ∧ ∃ rest, text = '/' :: '/' :: rest ∧ '@' ∈ authorityOf rest) ∨ Exposes text := by
  constructor
  · rintro ⟨rest, suffix, marked⟩
    rcases List.suffix_cons_iff.mp suffix with whole | later
    · obtain ⟨rfl, textEq⟩ := List.cons.inj whole
      exact .inl ⟨rfl, rest, textEq.symm, marked⟩
    · exact .inr ⟨rest, later, marked⟩
  · rintro (⟨rfl, rest, rfl, marked⟩ | ⟨rest, suffix, marked⟩)
    · exact ⟨rest, List.suffix_rfl, marked⟩
    · exact ⟨rest, suffix.trans (List.suffix_cons _ _), marked⟩

/-- Within an authority only its last character can begin a separator. -/
theorem exposes_append_iff {authority behind : List Char}
    (inside : ∀ char ∈ authority, inAuthority char = true) :
    Exposes (authority ++ behind) ↔ HidesSeparator authority behind ∨ Exposes behind := by
  induction authority with
  | nil => simp [HidesSeparator]
  | cons char rest ih =>
    obtain ⟨charInside, restInside⟩ := List.forall_mem_cons.mp inside
    rw [List.cons_append, exposes_cons_iff, ih restInside]
    cases rest with
    | nil => simp [HidesSeparator]
    | cons next others =>
      have notSlash : next ≠ '/' := by
        rintro rfl
        simpa [inAuthority] using restInside '/'
      simp [HidesSeparator, notSlash, List.getLast?_cons_cons]

theorem mem_host_imp {authority : List Char}
    (inside : ∀ char ∈ authority, inAuthority char = true) :
    '@' ∉ host authority ∧ ∀ char ∈ host authority, inAuthority char = true :=
  ⟨fun member => by simpa using List.mem_rtakeWhile_imp member,
    fun char member => inside char ((List.rtakeWhile_suffix _ _).subset member)⟩

theorem getLast?_host (authority : List Char) :
    (host authority).getLast? = some ':' ↔ authority.getLast? = some ':' := by
  induction authority using List.reverseRecOn with
  | nil => rfl
  | append_singleton earlier last _ =>
    rw [host, List.rtakeWhile_concat]
    split
    · simp
    · next isAt =>
      have lastEq : last = '@' := by simpa using isAt
      simp [lastEq]

theorem authorityOf_append {kept behind : List Char}
    (inside : ∀ char ∈ kept, inAuthority char = true) (ended : authorityOf behind = []) :
    authorityOf (kept ++ behind) = kept := by
  rw [authorityOf, List.takeWhile_append_of_pos inside, ← authorityOf, ended, List.append_nil]

theorem exists_stripped_slashes_iff {text : List Char} :
    (∃ rest, stripUrlUserinfo text = '/' :: '/' :: rest ∧ '@' ∈ authorityOf rest) ↔
      ∃ rest, text = '/' :: '/' :: rest ∧ '@' ∈ authorityOf rest := by
  simp only [stripUrlUserinfo_eq_slash_iff]
  constructor
  · rintro ⟨_, ⟨_, rfl, rest, rfl, rfl⟩, marked⟩
    exact ⟨rest, rfl, authorityOf_stripUrlUserinfo rest ▸ marked⟩
  · rintro ⟨rest, rfl, marked⟩
    exact ⟨_, ⟨_, rfl, rest, rfl, rfl⟩, (authorityOf_stripUrlUserinfo rest).symm ▸ marked⟩

theorem authorityOf_dropWhile (text : List Char) :
    authorityOf (text.dropWhile inAuthority) = [] := by
  have delimiter := List.head?_dropWhile_not inAuthority text
  cases behind : text.dropWhile inAuthority with
  | nil => rfl
  | cons char rest =>
    simp_all [authorityOf]

theorem exposes_stripUrlUserinfo_iff (text : List Char) : Exposes (stripUrlUserinfo text) ↔
      ∃ met ∈ authorities text, HidesSeparator met.1 met.2 := by
  fun_induction stripUrlUserinfo text with
  | case1 rest ih =>
    have inside : ∀ char ∈ authorityOf rest, inAuthority char = true :=
      fun char => List.mem_takeWhile_imp
    obtain ⟨noAt, hostInside⟩ := mem_host_imp inside
    -- the copied separator is followed by the host
    have ended : authorityOf (stripUrlUserinfo (rest.dropWhile inAuthority)) = [] := by
      rw [authorityOf_stripUrlUserinfo, authorityOf_dropWhile]
    have whole := authorityOf_append hostInside ended
    have hides : HidesSeparator (host (authorityOf rest))
        (stripUrlUserinfo (rest.dropWhile inAuthority)) ↔
        HidesSeparator (authorityOf rest) (rest.dropWhile inAuthority) := by
      rw [HidesSeparator, getLast?_host, exists_stripped_slashes_iff, HidesSeparator]
    simp [exposes_cons_iff, whole, noAt, exposes_append_iff hostInside, hides, ih, authorities]
  | case2 char rest notSeparator ih =>
    rw [exposes_cons_iff, ih, exists_stripped_slashes_iff, authorities]
    · refine or_iff_right ?_
      rintro ⟨rfl, behind, rfl, _⟩
      exact notSeparator behind rfl rfl
    · exact notSeparator
  | case3 => simp [Exposes, authorities]

/-- For every text: what the pass leaves differs from it in authorities only and has no
separator before an authority with an at sign, if and only if no authority that the pass
meets hides a separator before one. -/
theorem userinfo_stripped_iff (text : List Char) :
    (DiffersInAuthorities text (stripUrlUserinfo text) ∧ ¬ Exposes (stripUrlUserinfo text)) ↔
      ∀ met ∈ authorities text, ¬ HidesSeparator met.1 met.2 := by
  rw [and_iff_right (differsInAuthorities_stripUrlUserinfo text), exposes_stripUrlUserinfo_iff]
  simp

/-- The password of the second URL stays. -/
theorem nested_userinfo_survives :
    stripUrlUserinfo "http://a://user:secret@host".toList = "http://a://user:secret@host".toList ∧
      Exposes (stripUrlUserinfo "http://a://user:secret@host".toList) := by
  have kept : stripUrlUserinfo "http://a://user:secret@host".toList =
      "http://a://user:secret@host".toList := by
    decide +kernel
  rw [kept]
  exact ⟨rfl, "user:secret@host".toList, by decide, by decide⟩

end FuboxApi.UrlUserinfo
