import LuauLayout.Script.Identifier

/-! The characters of identifiers.  Whatever the name and the type of an item are, its identifier is
made of word characters, one of them a letter or a digit; a number or a corner behind it keeps this.
Different numbers give different identifiers, whatever names they stand behind, and so do the corners of
different identifiers.  A name with a letter or a digit is projected onto the word characters place by
place, and the projection changes no identifier. -/

namespace LuauLayout.Identifier

/-- A text of word characters that are not all underscores. -/
structure IsName (s : String) : Prop where
  isWord : ∀ c ∈ s.toList, isWordChar c = true
  isSolid : ∃ c ∈ s.toList, c.isAlphanum = true

theorem isWord_of_all {s : String} (h : s.toList.all isWordChar = true) :
    ∀ c ∈ s.toList, isWordChar c = true :=
  List.all_eq_true.1 h

theorem isWordChar_of_isAlphanum {c : Char} (h : c.isAlphanum = true) : isWordChar c = true := by
  rw [isWordChar, h, Bool.true_or]

theorem isAlphanum_of_isDigit {c : Char} (h : c.isDigit = true) : c.isAlphanum = true := by
  rw [Char.isAlphanum, h, Bool.or_true]

theorem isAlphanum_of_mem_repr {n : Nat} {c : Char} (h : c ∈ n.repr.toList) :
    c.isAlphanum = true := by
  rw [Nat.toList_repr] at h
  exact isAlphanum_of_isDigit (Nat.isDigit_of_mem_toDigits (by decide) (by decide) h)

theorem IsName.append {s t : String} (hs : IsName s)
    (ht : ∀ c ∈ t.toList, isWordChar c = true) : IsName (s ++ t) := by
  obtain ⟨c, hc, hsolid⟩ := hs.isSolid
  constructor
  · intro d hd
    rw [String.toList_append, List.mem_append] at hd
    exact hd.elim (hs.isWord d) (ht d)
  · exact ⟨c, by simp [hc], hsolid⟩

theorem isWordChar_of_mem_suffix {n : Nat} {c : Char} (h : c ∈ ("_" ++ n.repr).toList) :
    isWordChar c = true := by
  rw [String.toList_append, List.mem_append] at h
  rcases h with h | h
  · obtain rfl : c = '_' := by simpa using h
    rfl
  · exact isWordChar_of_isAlphanum (isAlphanum_of_mem_repr h)

/-! ### The identifier of an item -/

theorem isWordChar_of_mem_clean {name : String} {c : Char} (h : c ∈ (clean name).toList) :
    isWordChar c = true := by
  rw [clean, String.toList_ofList, List.mem_map] at h
  obtain ⟨d, -, rfl⟩ := h
  split
  · assumption
  · rfl

theorem isName_numbered (index : Nat) : IsName (numbered index) :=
  IsName.append (s := "Item_") ⟨isWord_of_all (by decide), 'I', by decide, by decide⟩ fun _ h =>
    isWordChar_of_isAlphanum (isAlphanum_of_mem_repr (n := index) h)

/-- A text of word characters is a name as soon as one of them is no underscore. -/
theorem isName_of_not_all {s : String} (hw : ∀ c ∈ s.toList, isWordChar c = true)
    (h : ¬s.toList.all (· == '_') = true) : IsName s := by
  refine ⟨hw, ?_⟩
  obtain ⟨c, hc, hne⟩ : ∃ c ∈ s.toList, ¬(c == '_') = true := by simpa using h
  have hword := hw c hc
  rw [isWordChar, Bool.or_eq_true] at hword
  exact ⟨c, hc, hword.resolve_right hne⟩

theorem isName_ofItem (name type : Option String) (index : Nat) :
    IsName (ofItem name type index) := by
  rw [ofItem]
  split
  · exact isName_numbered index
  · rename_i h
    exact isName_of_not_all (fun c hc => isWordChar_of_mem_clean hc) h

theorem IsName.suffixed {s : String} (h : IsName s) (n : Nat) : IsName (suffixed s n) := by
  rw [Identifier.suffixed, String.append_assoc]
  exact h.append fun _ hc => isWordChar_of_mem_suffix hc

theorem IsName.corner {s : String} (h : IsName s) : IsName (corner s) :=
  h.append (isWord_of_all (by decide))

theorem isName_rootName : IsName rootName :=
  ⟨isWord_of_all (by decide), 'S', by decide, by decide⟩

/-! ### Distinct identifiers -/

/-- The number behind a name is what follows its last underscore. -/
theorem takeWhile_reverse_suffixed (s : String) (n : Nat) :
    (suffixed s n).toList.reverse.takeWhile (·.isDigit) = (Nat.toDigits 10 n).reverse := by
  have hdigits : ∀ c ∈ (Nat.toDigits 10 n).reverse, c.isDigit = true := fun c hc =>
    Nat.isDigit_of_mem_toDigits (by decide) (by decide) (List.mem_reverse.1 hc)
  have hsplit : (suffixed s n).toList.reverse =
      (Nat.toDigits 10 n).reverse ++ '_' :: s.toList.reverse := by
    simp [suffixed, Nat.toList_repr]
  rw [hsplit, List.takeWhile_append_of_pos hdigits, List.takeWhile_cons_of_neg (by decide),
    List.append_nil]

theorem suffixed_injective {s t : String} {m n : Nat} (h : suffixed s m = suffixed t n) : m = n := by
  have hdigits := takeWhile_reverse_suffixed s m
  rw [h, takeWhile_reverse_suffixed, List.reverse_inj] at hdigits
  rw [← Nat.ofDigitChars_ten_toDigits (n := m), ← hdigits, Nat.ofDigitChars_ten_toDigits]

theorem corner_injective {s t : String} (h : corner s = corner t) : s = t := by
  simpa [corner, ← String.toList_inj] using h

theorem corner_ne_self (s : String) : corner s ≠ s := by
  intro h
  have := congrArg String.length h
  simp [corner] at this

/-- The name of the root has no underscore. -/
theorem ne_rootName_of_underscore_mem {s : String} (h : '_' ∈ s.toList) : s ≠ rootName := by
  rintro rfl
  exact absurd h (by decide)

theorem suffixed_ne_rootName (s : String) (n : Nat) : suffixed s n ≠ rootName :=
  ne_rootName_of_underscore_mem (by simp [suffixed])

theorem corner_ne_rootName (s : String) : corner s ≠ rootName :=
  ne_rootName_of_underscore_mem (by simp [corner])

/-! ### Cleaned names -/

theorem clean_append (s t : String) : clean (s ++ t) = clean s ++ clean t := by
  rw [clean, String.toList_append, List.map_append, String.ofList_append]
  rfl

theorem clean_of_isWord {s : String} (h : ∀ c ∈ s.toList, isWordChar c = true) : clean s = s := by
  have hkept : s.toList.map (fun c => if isWordChar c then c else '_') = s.toList := by
    refine (List.map_congr_left fun c hc => ?_).trans (List.map_id _)
    exact if_pos (h c hc)
  rw [clean, hkept, String.ofList_toList]

theorem clean_suffixed (s : String) (n : Nat) : clean (suffixed s n) = suffixed (clean s) n := by
  rw [suffixed, String.append_assoc, clean_append, clean_of_isWord fun _ => isWordChar_of_mem_suffix,
    ← String.append_assoc, suffixed]

theorem all_underscore_clean {s : String} (h : ∀ c ∈ s.toList, c.isAlphanum = false) :
    (clean s).toList.all (· == '_') = true := by
  rw [clean, String.toList_ofList, List.all_map, List.all_eq_true]
  intro c hc
  have hword : isWordChar c = (c == '_') := by rw [isWordChar, h c hc, Bool.false_or]
  simp [hword]

/-- A letter or a digit survives the cleaning. -/
theorem mem_clean_of_isAlphanum {s : String} {c : Char} (hc : c ∈ s.toList)
    (h : c.isAlphanum = true) : c ∈ (clean s).toList := by
  rw [clean, String.toList_ofList, List.mem_map]
  exact ⟨c, hc, if_pos (isWordChar_of_isAlphanum h)⟩

/-- A letter or a digit in the name makes the type and the number irrelevant. -/
theorem ofItem_of_isSolid {s : String} (h : ∃ c ∈ s.toList, c.isAlphanum = true)
    (type : Option String) (index : Int) : ofItem (some s) type index = clean s := by
  obtain ⟨c, hc, hsolid⟩ := h
  have hgiven : given (some s) = some s := by
    have hne : s ≠ "" := by
      rintro rfl
      exact absurd hc List.not_mem_nil
    rw [given, Option.filter_some, if_pos (by simpa using hne)]
  have hmixed : ¬(clean s).toList.all (· == '_') = true := by
    intro hall
    have hkept := mem_clean_of_isAlphanum hc hsolid
    obtain rfl : c = '_' := by simpa using List.all_eq_true.1 hall c hkept
    exact absurd hsolid (by decide)
  rw [ofItem, hgiven, Option.getD_some, if_neg hmixed]

/-- A text of word characters, one of them a letter or a digit, is the identifier that it gives. -/
theorem ofItem_of_isName {s : String} (h : IsName s) (type : Option String) (index : Int) :
    ofItem (some s) type index = s := by
  rw [ofItem_of_isSolid h.isSolid, clean_of_isWord h.isWord]

/-! ### The projection onto word characters -/

/-- One of the letters A to Z and a to z and the digits 0 to 9. -/
def IsLetterOrDigit (c : Char) : Prop :=
  'A' ≤ c ∧ c ≤ 'Z' ∨ 'a' ≤ c ∧ c ≤ 'z' ∨ '0' ≤ c ∧ c ≤ '9'

theorem isAlphanum_iff {c : Char} : c.isAlphanum = true ↔ IsLetterOrDigit c := by
  have hupper : c.isUpper = true ↔ 'A' ≤ c ∧ c ≤ 'Z' := decide_eq_true_iff
  have hlower : c.isLower = true ↔ 'a' ≤ c ∧ c ≤ 'z' :=
    Bool.and_eq_true_iff.trans (and_congr decide_eq_true_iff decide_eq_true_iff)
  have hdigit : c.isDigit = true ↔ '0' ≤ c ∧ c ≤ '9' :=
    Bool.and_eq_true_iff.trans (and_congr decide_eq_true_iff decide_eq_true_iff)
  have halpha : c.isAlpha = true ↔ c.isUpper = true ∨ c.isLower = true := Bool.or_eq_true_iff
  have halphanum : c.isAlphanum = true ↔ c.isAlpha = true ∨ c.isDigit = true :=
    Bool.or_eq_true_iff
  rw [halphanum, halpha, hupper, hlower, hdigit, or_assoc, IsLetterOrDigit]

theorem isWordChar_iff {c : Char} : isWordChar c = true ↔ IsLetterOrDigit c ∨ c = '_' := by
  rw [isWordChar, Bool.or_eq_true, isAlphanum_iff, beq_iff_eq]

/-- The identifier is as long as the name and has its letters, digits and underscores where the name
has them, and underscores in all other places. -/
structure Projects (name identifier : String) : Prop where
  length : identifier.length = name.length
  kept : ∀ (i : Nat) c, name.toList[i]? = some c → IsLetterOrDigit c ∨ c = '_' →
    identifier.toList[i]? = some c
  replaced : ∀ (i : Nat) c, name.toList[i]? = some c → ¬(IsLetterOrDigit c ∨ c = '_') →
    identifier.toList[i]? = some '_'

theorem getElem?_clean (s : String) (i : Nat) :
    (clean s).toList[i]? = s.toList[i]?.map fun c => if isWordChar c then c else '_' := by
  rw [clean, String.toList_ofList, List.getElem?_map]

theorem projects_clean (s : String) : Projects s (clean s) where
  length := by rw [clean, String.length_ofList, List.length_map, String.length_toList]
  kept i c hc hword := by
    rw [getElem?_clean, hc, Option.map_some, if_pos (isWordChar_iff.2 hword)]
  replaced i c hc hword := by
    rw [getElem?_clean, hc, Option.map_some, if_neg (mt isWordChar_iff.1 hword)]

/-- Whatever the name, the type and the number of an item are, its identifier is not empty and is made
of letters, digits and underscores, not of underscores alone.  A name with a letter or a digit is
projected onto its identifier, whatever the type and the number are.  The identifier, taken as a name, is
its own identifier with any type and any number. -/
theorem ofItem_projects (name type : Option String) (index : Nat) :
    let identifier := ofItem name type index
    (identifier ≠ "" ∧ (∀ c ∈ identifier.toList, IsLetterOrDigit c ∨ c = '_') ∧
      ∃ c ∈ identifier.toList, IsLetterOrDigit c) ∧
    (∀ s, name = some s → (∃ c ∈ s.toList, IsLetterOrDigit c) →
      Projects s identifier ∧ ∀ type' (index' : Int), ofItem name type' index' = identifier) ∧
    ∀ type' (index' : Int), ofItem (some identifier) type' index' = identifier := by
  intro identifier
  have hname : IsName identifier := isName_ofItem name type index
  obtain ⟨c, hc, hsolid⟩ := hname.isSolid
  refine ⟨⟨?_, fun d hd => isWordChar_iff.1 (hname.isWord d hd), c, hc, isAlphanum_iff.1 hsolid⟩,
    ?_, ofItem_of_isName hname⟩
  · intro hempty
    rw [hempty] at hc
    exact absurd hc List.not_mem_nil
  · rintro s rfl hs
    have hclean : ∀ type' (index' : Int), ofItem (some s) type' index' = clean s :=
      ofItem_of_isSolid (by simpa only [isAlphanum_iff] using hs)
    have hidentifier : identifier = clean s := hclean type index
    rw [hidentifier]
    exact ⟨projects_clean s, hclean⟩

/-- Letters beyond A to Z and a to z are replaced, and so are signs. -/
theorem ofItem_projects_mixed :
    (∃ c ∈ "né!!_1".toList, IsLetterOrDigit c) ∧
      Projects "né!!_1" (ofItem (some "né!!_1") none 0) ∧
      ofItem (some "né!!_1") (some "Circle") 7 = "n____1" := by
  have hsolid : ∃ c ∈ "né!!_1".toList, IsLetterOrDigit c :=
    ⟨'n', by decide, Or.inr (Or.inl (by decide))⟩
  obtain ⟨-, hnamed, -⟩ := ofItem_projects (some "né!!_1") none 0
  obtain ⟨hprojects, hsame⟩ := hnamed _ rfl hsolid
  exact ⟨hsolid, hprojects, (hsame _ _).trans (by decide)⟩

end LuauLayout.Identifier
