import LuauLayout.Proofs.Lines
import LuauLayout.Proofs.NumberText
import LuauLayout.Proofs.Placed
import LuauLayout.Proofs.Warnings

/-! The lines of a script.  A statement is sealed if its names are made of word characters and its
strings hold their texts; then it is inert, whatever the texts are.  The statements of a layout are
sealed as soon as no colour and no image breaks its quotes and no text closes its brackets, and a
reader of the script finds one line for every statement. -/

namespace LuauLayout

open Identifier (isWord_of_all isWordChar)
open Lines (Inert isPlain isQuotable)

/-! ### Sealed statements -/

/-- A class of characters without the marks of strings and lines is plain. -/
theorem isPlain_of_class {p : Char → Bool} (hmarks : p '"' = false ∧ p '[' = false ∧ p '\n' = false)
    {c : Char} (h : p c = true) : isPlain c = true := by
  simp only [isPlain, Bool.and_eq_true, bne_iff_ne, ne_eq]
  refine ⟨⟨?_, ?_⟩, ?_⟩ <;> rintro rfl <;> simp [hmarks] at h

theorem isPlain_of_isWordChar {c : Char} (h : isWordChar c = true) : isPlain c = true :=
  isPlain_of_class (by decide) h

theorem all_isPlain_literal (n : Number) : n.literal.toList.all isPlain = true := by
  have hnumeral := List.all_eq_true.1 n.all_isNumeralChar_literal
  exact List.all_eq_true.2 fun c hc => isPlain_of_class (by decide) (hnumeral c hc)

theorem all_isPlain_of_isWord {s : String} (h : ∀ c ∈ s.toList, isWordChar c = true) :
    s.toList.all isPlain = true :=
  List.all_eq_true.2 fun c hc => isPlain_of_isWordChar (h c hc)

theorem inert_around_quoted (before s after : List Char) (hb : before.all isPlain = true)
    (hs : s.all isQuotable = true) (ha : after.all isPlain = true) :
    Inert (before ++ '"' :: (s ++ '"' :: after)) := by
  have h := (Lines.inert_of_isPlain hb).append
    ((Lines.inert_quoted hs).append (Lines.inert_of_isPlain ha))
  simpa using h

namespace Expression

/-- The strings of the expression hold their texts, and its names are made of word characters. -/
def IsSealed : Expression → Prop
  | plain s => s.toList.all isQuotable = true
  | color hex => hex.toList.all isQuotable = true
  | long isSafe s => isSafe = true ∨ LongString.closesEarly s = false
  | name s => ∀ c ∈ s.toList, isWordChar c = true
  | radius s => ∀ c ∈ s.toList, isWordChar c = true
  | number _ => True
  | boolean _ => True
  | offset _ _ => True
  | playerGui => True

theorem inert_long {isSafe : Bool} {s : String}
    (h : isSafe = true ∨ LongString.closesEarly s = false) :
    Inert (LongString.quote isSafe s).toList := by
  rw [LongString.quote, String.toList_ofList]
  cases isSafe with
  | true =>
    have hholds := LongString.holds_lowestLevel s.toList
    rw [if_pos rfl, LongString.safe]
    split
    · exact Lines.inert_bracket ((LongString.holds_cons_iff (by decide)).2 hholds)
    · exact Lines.inert_bracket hholds
  | false =>
    have hholds : LongString.holds 0 s.toList = true := by
      simpa [LongString.closesEarly] using h
    exact Lines.inert_bracket hholds

theorem inert_render {value : Expression} (h : value.IsSealed) : Inert value.render.toList := by
  cases value with
  | number n =>
    rw [render_number]
    exact Lines.inert_of_isPlain (all_isPlain_literal n)
  | plain s =>
    have := inert_around_quoted [] s.toList [] rfl h rfl
    simpa using this
  | long isSafe s => exact inert_long h
  | boolean b => cases b <;> exact Lines.inert_of_isPlain (by decide)
  | offset x y =>
    refine Lines.inert_of_isPlain ?_
    simp only [render_offset, String.toList_append, List.all_append, all_isPlain_literal,
      Bool.and_true]
    decide
  | color hex =>
    have := inert_around_quoted "Color3.fromHex(".toList hex.toList [')'] (by decide) h
      (by decide)
    simpa using this
  | name s => exact Lines.inert_of_isPlain (all_isPlain_of_isWord h)
  | radius s =>
    refine Lines.inert_of_isPlain ?_
    simp only [render_radius, String.toList_append, List.all_append, all_isPlain_of_isWord h,
      Bool.and_true]
    decide
  | playerGui =>
    have := inert_around_quoted "game.Players.LocalPlayer:WaitForChild(".toList
      "PlayerGui".toList [')'] (by decide) (by decide) (by decide)
    simpa using this

end Expression

namespace Statement

/-- The names of the statement are made of word characters, and its value is sealed. -/
def IsSealed : Statement → Prop
  | blank => True
  | declare name className =>
    (∀ c ∈ name.toList, isWordChar c = true) ∧ ∀ c ∈ className.toList, isWordChar c = true
  | assign name property value =>
    (∀ c ∈ name.toList, isWordChar c = true) ∧ (∀ c ∈ property.toList, isWordChar c = true) ∧
      value.IsSealed

theorem inert_render {statement : Statement} (h : statement.IsSealed) :
    Inert statement.render.toList := by
  cases statement with
  | blank => exact Lines.inert_nil
  | declare name className =>
    obtain ⟨hname, hclass⟩ := h
    have hquotable : className.toList.all isQuotable = true := by
      refine List.all_eq_true.2 fun c hc => ?_
      have hw := hclass c hc
      simp only [isQuotable, Bool.and_eq_true, bne_iff_ne, ne_eq]
      refine ⟨⟨⟨?_, ?_⟩, ?_⟩, ?_⟩ <;> rintro rfl <;> exact absurd hw (by decide)
    have hbefore : ("local " ++ name ++ " = Instance.new(").toList.all isPlain = true := by
      simp only [String.toList_append, List.all_append, all_isPlain_of_isWord hname]
      decide
    have := inert_around_quoted _ className.toList [')'] hbefore hquotable (by decide)
    simpa using this
  | assign name property value =>
    obtain ⟨hname, hproperty, hvalue⟩ := h
    have hleft : (name ++ "." ++ property ++ " = ").toList.all isPlain = true := by
      simp only [String.toList_append, List.all_append, all_isPlain_of_isWord hname,
        all_isPlain_of_isWord hproperty]
      decide
    rw [render_assign, String.toList_append]
    exact (Lines.inert_of_isPlain hleft).append (Expression.inert_render hvalue)

end Statement

/-! ### The statements of a layout -/

theorem isSealed_preamble : ∀ s ∈ preamble, s.IsSealed := by
  intro s hs
  simp only [preamble, List.mem_cons, List.not_mem_nil, or_false] at hs
  rcases hs with rfl | rfl | rfl | rfl
  · exact ⟨isWord_of_all (by decide), isWord_of_all (by decide)⟩
  · have hname : "GeneratedUI".toList.all isQuotable = true := by decide
    exact ⟨isWord_of_all (by decide), isWord_of_all (by decide), hname⟩
  · exact ⟨isWord_of_all (by decide), isWord_of_all (by decide), trivial⟩
  · exact ⟨isWord_of_all (by decide), isWord_of_all (by decide), trivial⟩

theorem isWordChar_of_isClassName {s : String} (h : isClassName s = true) :
    ∀ c ∈ s.toList, isWordChar c = true := by
  rw [isClassName] at h
  split at h
  · exact absurd h (by simp)
  · rename_i first rest heq
    simp only [Bool.and_eq_true, Bool.or_eq_true, List.all_eq_true] at h
    rw [heq]
    intro c hc
    rcases List.mem_cons.1 hc with rfl | hc
    · rw [isWordChar, Char.isAlphanum, Bool.or_eq_true, Bool.or_eq_true]
      exact h.1.imp Or.inl id
    · exact h.2 c hc

theorem isWordChar_of_mem_className (type : Option String) :
    ∀ c ∈ (className type).toList, isWordChar c = true := by
  have hdefault : ∀ c ∈ defaultClass.toList, isWordChar c = true := isWord_of_all (by decide)
  cases type with
  | none => exact hdefault
  | some t =>
    rw [className]
    split
    · exact hdefault
    · rename_i h
      have hclass : isClassName t = true := by
        simp only [Bool.or_eq_true, Bool.not_eq_true', not_or, Bool.not_eq_false] at h
        exact h.2
      exact isWordChar_of_isClassName hclass

namespace Item

/-- The texts of an item that a script shows in double quotes. -/
def quotedTexts (item : Item) : List String :=
  item.fill.toList ++ item.textColor.toList ++ item.imageId.toList

variable {item : Item} {identifier : String} {isSafe : Bool}

theorem eq_some_of_given_eq_some {field : Option String} {s : String} (h : given field = some s) :
    field = some s :=
  (Option.filter_eq_some_iff.1 h).1

theorem isSealed_pair {key : String} {value : Expression}
    (hkey : key.toList.all isWordChar = true) (h : value.IsSealed) :
    (∀ c ∈ (key, value).1.toList, isWordChar c = true) ∧ (key, value).2.IsSealed :=
  ⟨isWord_of_all hkey, h⟩

theorem isSealed_optionalProperties
    (hquoted : ∀ s ∈ item.quotedTexts, s.toList.all isQuotable = true)
    (htext : ∀ s, given item.text = some s → isSafe = true ∨ LongString.closesEarly s = false) :
    ∀ p ∈ item.optionalProperties isSafe,
      (∀ c ∈ p.1.toList, isWordChar c = true) ∧ p.2.IsSealed := by
  have hgiven : ∀ field : Option String, field.toList ⊆ item.quotedTexts →
      ∀ s, given field = some s → s.toList.all isQuotable = true := by
    intro field hsub s hs
    exact hquoted s (hsub (by simp [eq_some_of_given_eq_some hs]))
  intro p hp
  simp only [optionalProperties, List.mem_append, Option.mem_toList,
    Option.map_eq_some_iff] at hp
  rcases hp with ((((⟨s, hs, rfl⟩ | ⟨n, -, rfl⟩) | ⟨s, hs, rfl⟩) | ⟨s, hs, rfl⟩) | ⟨n, -, rfl⟩) |
    ⟨s, hs, rfl⟩
  · exact isSealed_pair (by decide) (hgiven item.fill (by simp [quotedTexts]) s hs)
  · exact isSealed_pair (by decide) trivial
  · exact isSealed_pair (by decide) (htext s hs)
  · exact isSealed_pair (by decide) (hgiven item.textColor (by simp [quotedTexts]) s hs)
  · exact isSealed_pair (by decide) trivial
  · exact isSealed_pair (by decide) (hgiven item.imageId (by simp [quotedTexts]) s hs)

theorem isSealed_properties
    (hoptional : ∀ p ∈ item.optionalProperties isSafe,
      (∀ c ∈ p.1.toList, isWordChar c = true) ∧ p.2.IsSealed) :
    ∀ p ∈ item.properties isSafe, (∀ c ∈ p.1.toList, isWordChar c = true) ∧ p.2.IsSealed := by
  intro p hp
  simp only [properties, List.mem_append, List.mem_cons, List.not_mem_nil, or_false] at hp
  rcases hp with ((rfl | rfl) | hp) | rfl
  · exact isSealed_pair (by decide) trivial
  · exact isSealed_pair (by decide) trivial
  · exact hoptional p hp
  · exact isSealed_pair (by decide) Identifier.isName_rootName.isWord

theorem isSealed_shapeStatements (hname : Identifier.IsName identifier) :
    ∀ s ∈ item.shapeStatements identifier, s.IsSealed := by
  have hcorner := hname.corner.isWord
  intro s hs
  rw [shapeStatements] at hs
  split at hs
  · simp only [List.mem_cons, List.not_mem_nil, or_false] at hs
    rcases hs with rfl | rfl | rfl
    · exact ⟨hcorner, isWord_of_all (by decide)⟩
    · exact ⟨hcorner, isWord_of_all (by decide), hname.isWord⟩
    · exact ⟨hcorner, isWord_of_all (by decide), hname.isWord⟩
  · split at hs
    · obtain rfl := List.mem_singleton.1 hs
      exact ⟨hname.isWord, isWord_of_all (by decide), trivial⟩
    · simp at hs

theorem isSealed_block (hname : Identifier.IsName identifier)
    (hquoted : ∀ s ∈ item.quotedTexts, s.toList.all isQuotable = true)
    (htext : ∀ s, given item.text = some s → isSafe = true ∨ LongString.closesEarly s = false) :
    ∀ s ∈ item.block identifier isSafe, s.IsSealed := by
  have hproperties := isSealed_properties (isSealed_optionalProperties hquoted htext)
  intro s hs
  rw [block, List.cons_append, List.cons_append] at hs
  rcases List.mem_cons.1 hs with rfl | hs
  · trivial
  rcases List.mem_cons.1 hs with rfl | hs
  · exact ⟨hname.isWord, isWordChar_of_mem_className item.type⟩
  rcases List.mem_append.1 hs with hs | hs
  · obtain ⟨p, hp, rfl⟩ := List.mem_map.1 hs
    exact ⟨hname.isWord, hproperties p hp⟩
  · exact isSealed_shapeStatements hname s hs

end Item

theorem ofScript_renderScript {statements : List Statement} (hne : statements ≠ [])
    (h : ∀ s ∈ statements, s.IsSealed) :
    Lines.ofScript (renderScript statements) = statements.map Statement.render := by
  refine Lines.ofScript_intercalate (by simpa using hne) fun line hline => ?_
  obtain ⟨s, hs, rfl⟩ := List.mem_map.1 hline
  exact Statement.inert_render (h s hs)

namespace Layout

/-- If no colour and no image of a written item holds a quote, a backslash or a line break, and no
warning tells of an unterminated text, then a reader of the script finds the lines of the preamble
and those of the blocks.  With safe texts there is no such warning. -/
theorem ofScript_toScript (layout : Layout) (options : ExportOptions)
    (hquoted : ∀ item ∈ layout.items, item.exported = true → item.isHelper = false →
      ∀ s ∈ item.quotedTexts, s.toList.all isQuotable = true) :
    ((∀ w ∈ (layout.toScript options).warnings, w.kind ≠ .unterminatedText) →
      Lines.ofScript (layout.toScript options).script = preamble.map Statement.render ++
        ((layout.placed options).filter (·.isWritten)).flatMap fun p =>
          (p.block options.safeText).map Statement.render) ∧
      (options.safeText = true →
        ∀ w ∈ (layout.toScript options).warnings, w.kind ≠ .unterminatedText) := by
  constructor
  · intro hwarnings
    have hsealed : ∀ s ∈ layout.statements options, s.IsSealed := by
      intro s hs
      rcases List.mem_append.1 hs with hs | hs
      · exact isSealed_preamble s hs
      obtain ⟨p, hp, hs⟩ := List.mem_flatMap.1 hs
      obtain ⟨hplaced, hwritten⟩ := List.mem_filter.1 hp
      obtain ⟨hitem, hexported⟩ := item_mem_of_mem_placed hplaced
      have hhelper : p.item.isHelper = false := by simpa [Placed.isWritten] using hwritten
      refine Item.isSealed_block (isName_identifier hplaced)
        (hquoted p.item hitem hexported hhelper) (fun t ht => ?_) s hs
      by_cases hsafe : options.safeText = true
      · exact Or.inl hsafe
      · right
        rw [← Bool.not_eq_true]
        intro hearly
        have hunterminated : p.isUnterminated options = true := by
          simp [Placed.isUnterminated, ht, hsafe, hearly]
        obtain ⟨w, hw, hkind⟩ :=
          exists_unterminated_iff.2 ⟨p, hplaced, hwritten, hunterminated⟩
        exact hwarnings w hw hkind
    have hscript := ofScript_renderScript (by simp [statements, preamble]) hsealed
    rw [statements, List.map_append, List.map_flatMap] at hscript
    exact hscript
  · intro hsafe w hw hkind
    obtain ⟨p, -, -, hunterminated⟩ := exists_unterminated_iff.1 ⟨w, hw, hkind⟩
    simp [Placed.isUnterminated, hsafe] at hunterminated

/-- A text that closes brackets, breaks the line and goes on like a statement stays in its line, and so
do colours and an image in double quotes. -/
theorem ofScript_toScript_closing_text :
    let layout : Layout := ⟨none,
      [{ name := some "a b", text := some "]]\na_b.Text = [[\"" },
        { name := some "c", fill := some "#102030", text := some "]", textColor := some "#fff",
          imageId := some "rbxassetid://[[7" }]⟩
    let options : ExportOptions := ⟨false, true⟩
    (∀ item ∈ layout.items, item.exported = true → item.isHelper = false →
      ∀ s ∈ item.quotedTexts, s.toList.all isQuotable = true) ∧
      (∀ w ∈ (layout.toScript options).warnings, w.kind ≠ .unterminatedText) ∧
      Lines.ofScript (layout.toScript options).script =
        preamble.map Statement.render ++
          ["", "local a_b = Instance.new(\"Frame\")", "a_b.Position = UDim2.fromOffset(0, 0)",
            "a_b.Size = UDim2.fromOffset(0, 0)", "a_b.Text = [=[]]\na_b.Text = [[\"]=]",
            "a_b.Parent = ScreenGui",
            "", "local c = Instance.new(\"Frame\")", "c.Position = UDim2.fromOffset(0, 0)",
            "c.Size = UDim2.fromOffset(0, 0)",
            "c.BackgroundColor3 = Color3.fromHex(\"#102030\")", "c.Text = [=[]]=]",
            "c.TextColor3 = Color3.fromHex(\"#fff\")", "c.Image = \"rbxassetid://[[7\"",
            "c.Parent = ScreenGui"] := by
  intro layout options
  have hquoted : ∀ item ∈ layout.items, item.exported = true → item.isHelper = false →
      ∀ s ∈ item.quotedTexts, s.toList.all isQuotable = true := by decide
  obtain ⟨hlines, hwarnings⟩ := ofScript_toScript layout options hquoted
  refine ⟨hquoted, hwarnings rfl, (hlines (hwarnings rfl)).trans ?_⟩
  decide +kernel

end Layout

end LuauLayout
