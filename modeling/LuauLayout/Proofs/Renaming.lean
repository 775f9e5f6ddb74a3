import LuauLayout.Proofs.UniqueNames
import LuauLayout.Proofs.Warnings

/-! What unique names change.  Placed with unique names and without, the same items get the same
identifiers up to the first one of which a local was declared before; there the one placement adds a
number and the other does not.  So the two placements are equal or they part, and where they part
both exports warn of a duplicate and the scripts differ from the declaration of that item on. -/

namespace LuauLayout

/-! ### Where two placements part -/

/-- The placements agree up to an item that keeps its name in the one and gets a number in the other,
because one of its locals is taken or declared in front. -/
def PartsAt (taken : List String) (plain unique : List Placed) : Prop :=
  ∃ (front : List Placed) (p : Placed) (n : Nat) (behind behind' : List Placed),
    plain = front ++ p :: behind ∧
    unique = front ++ { p with identifier := Identifier.suffixed p.natural n } :: behind' ∧
    p.isWritten = true ∧ p.identifier = p.natural ∧
    ∃ name ∈ p.locals, name ∈ writtenLocals front ++ taken

theorem writtenLocals_append (l l' : List Placed) :
    writtenLocals (l ++ l') = writtenLocals l ++ writtenLocals l' := by
  rw [writtenLocals, List.filter_append, List.flatMap_append]
  rfl

/-- A part behind `p` is one behind the locals of `p`. -/
theorem PartsAt.cons {taken taken' : List String} {plain unique : List Placed}
    (h : PartsAt taken' plain unique) (p : Placed)
    (hp : ∀ name ∈ taken', name ∈ writtenLocals [p] ++ taken) :
    PartsAt taken (p :: plain) (p :: unique) := by
  obtain ⟨front, q, n, behind, behind', rfl, rfl, hwritten, hid, name, hlocal, hname⟩ := h
  refine ⟨p :: front, q, n, behind, behind', rfl, rfl, hwritten, hid, name, hlocal, ?_⟩
  rw [← List.singleton_append, writtenLocals_append]
  rcases List.mem_append.1 hname with hfront | htaken
  · simp [hfront]
  · rcases List.mem_append.1 (hp name htaken) with hself | htaken
    · simp [hself]
    · simp [htaken]

section Place

variable {taken : List String} {item : Item} {natural : String} {isSafe : Bool}

theorem chosenIdentifier_plain : chosenIdentifier ⟨false, isSafe⟩ taken item natural = natural := rfl

theorem chosenIdentifier_of_isFree {options : ExportOptions}
    (h : isFree taken item natural = true) :
    chosenIdentifier options taken item natural = natural := by
  simp [chosenIdentifier, h]

theorem chosenIdentifier_of_not_isFree (isSafe : Bool) (h : ¬isFree taken item natural = true) :
    chosenIdentifier ⟨true, isSafe⟩ taken item natural = freeIdentifier taken item natural := by
  simp [chosenIdentifier, h]

theorem exists_taken_of_not_isFree (h : ¬isFree taken item natural = true) :
    ∃ name ∈ item.locals natural, name ∈ taken := by
  rw [isFree_iff] at h
  push Not at h
  exact h

/-- Without unique names every item keeps its name. -/
theorem identifier_eq_natural_of_plain {items : List (Item × Nat)} {p : Placed}
    (h : p ∈ place ⟨false, isSafe⟩ taken items) : p.identifier = p.natural := by
  rcases identifier_eq_natural_or_chosen h with hid | ⟨-, before, hid⟩
  · exact hid
  · exact hid.trans chosenIdentifier_plain

theorem place_eq_or_partsAt (isSafe : Bool) (taken : List String) (items : List (Item × Nat)) :
    place ⟨true, isSafe⟩ taken items = place ⟨false, isSafe⟩ taken items ∨
      PartsAt taken (place ⟨false, isSafe⟩ taken items) (place ⟨true, isSafe⟩ taken items) := by
  induction items generalizing taken with
  | nil => exact Or.inl rfl
  | cons entry rest ih =>
    obtain ⟨item, index⟩ := entry
    generalize hn : Identifier.ofItem item.name item.type index = natural
    by_cases hh : item.isHelper = true
    · rw [place_cons_of_isHelper hh hn, place_cons_of_isHelper hh hn]
      refine (ih taken).imp (congrArg _) fun h => h.cons _ fun name hname => ?_
      exact List.mem_append_right _ hname
    · rw [place_cons_of_not_isHelper hh hn, place_cons_of_not_isHelper hh hn,
        chosenIdentifier_plain]
      by_cases hfree : isFree taken item natural = true
      · rw [chosenIdentifier_of_isFree hfree]
        refine (ih _).imp (congrArg _) fun h => h.cons _ fun name hname => ?_
        simpa [writtenLocals, Placed.isWritten, hh, Placed.locals] using hname
      · obtain ⟨name, hlocal, htaken⟩ := exists_taken_of_not_isFree hfree
        rw [chosenIdentifier_of_not_isFree isSafe hfree]
        exact Or.inr ⟨[], ⟨index, item, natural, natural⟩, _, _, _, rfl, rfl,
          by simpa [Placed.isWritten] using hh, rfl, name, hlocal, htaken⟩

end Place

/-! ### The warnings of both -/

namespace Placed

variable {names : List String} {p : Placed}

/-- The warnings of an item depend on the switch for unique names only by what they say of
duplicates. -/
theorem warnings_congr {isUnique isUnique' isSafe : Bool}
    (h : p.duplicate? ⟨isUnique, isSafe⟩ names = p.duplicate? ⟨isUnique', isSafe⟩ names) :
    p.warnings ⟨isUnique, isSafe⟩ names = p.warnings ⟨isUnique', isSafe⟩ names := by
  rw [warnings, h]
  rfl

/-- A local of a written item that a script declares more than once is one that two blocks declare,
or a block and the preamble. -/
theorem exists_repeated_iff (placed : List Placed) :
    (∃ p ∈ placed, p.isWritten = true ∧
      ∃ name ∈ p.locals, 1 < (scriptLocals placed).count name) ↔ ¬(scriptLocals placed).Nodup := by
  rw [List.nodup_iff_count_le_one]
  push Not
  constructor
  · rintro ⟨p, -, -, name, -, hcount⟩
    exact ⟨name, hcount⟩
  · rintro ⟨name, hcount⟩
    have hlater : 0 < (writtenLocals placed).count name := by
      have hcons : (scriptLocals placed).count name ≤ (writtenLocals placed).count name + 1 := by
        rw [scriptLocals, List.count_cons]
        split
        · exact Nat.le_refl _
        · exact Nat.le_succ _
      omega
    obtain ⟨p, hp, hlocal⟩ := List.mem_flatMap.1 (List.count_pos_iff.1 hlater)
    obtain ⟨hplaced, hwritten⟩ := List.mem_filter.1 hp
    exact ⟨p, hplaced, hwritten, name, hlocal, hcount⟩

end Placed

/-- Some warning of the export is about a name that is not the only one of its kind. -/
def Export.ReportsDuplicate (e : Export) : Prop := ∃ w ∈ e.warnings, w.kind = .duplicateName

namespace Layout

variable {layout : Layout}

theorem reportsDuplicate_iff {options : ExportOptions} :
    (layout.toScript options).ReportsDuplicate ↔
      ∃ p ∈ layout.placed options, p.isWritten = true ∧
        p.duplicate? options (scriptLocals (layout.placed options)) ≠ none :=
  exists_duplicate_iff

/-- Without unique names duplicates are reported exactly if two locals of the script have one name. -/
theorem reportsDuplicate_plain_iff {isSafe : Bool} :
    (layout.toScript ⟨false, isSafe⟩).ReportsDuplicate ↔
      ¬(scriptLocals (layout.placed ⟨false, isSafe⟩)).Nodup := by
  have hu : ¬(⟨false, isSafe⟩ : ExportOptions).uniqueNames = true := Bool.false_ne_true
  rw [reportsDuplicate_iff, ← Placed.exists_repeated_iff]
  simp only [Placed.duplicate?_ne_none_iff_of_plain hu]

theorem reportsDuplicate_unique_iff {isSafe : Bool} :
    (layout.toScript ⟨true, isSafe⟩).ReportsDuplicate ↔
      ∃ p ∈ layout.placed ⟨true, isSafe⟩, p.isWritten = true ∧ p.identifier ≠ p.natural := by
  have hu : (⟨true, isSafe⟩ : ExportOptions).uniqueNames = true := rfl
  rw [reportsDuplicate_iff]
  simp only [Placed.duplicate?_ne_none_iff_of_unique hu]

/-- Where nothing is renamed, both exports are the same and report no duplicate. -/
theorem toScript_eq_of_placed_eq {isSafe : Bool}
    (h : layout.placed ⟨true, isSafe⟩ = layout.placed ⟨false, isSafe⟩) :
    layout.toScript ⟨false, isSafe⟩ = layout.toScript ⟨true, isSafe⟩ ∧
      ¬(layout.toScript ⟨false, isSafe⟩).ReportsDuplicate ∧
      ¬(layout.toScript ⟨true, isSafe⟩).ReportsDuplicate := by
  have hplain : ¬(layout.toScript ⟨false, isSafe⟩).ReportsDuplicate := by
    rw [reportsDuplicate_plain_iff, not_not, ← h]
    exact nodup_scriptLocals_of_uniqueNames rfl layout
  have hunique : ¬(layout.toScript ⟨true, isSafe⟩).ReportsDuplicate := by
    rw [reportsDuplicate_unique_iff, h]
    rintro ⟨p, hp, -, hne⟩
    exact hne (identifier_eq_natural_of_plain hp)
  have hwarnings : ∀ p ∈ layout.placed ⟨false, isSafe⟩,
      p.warnings ⟨false, isSafe⟩ (scriptLocals (layout.placed ⟨false, isSafe⟩)) =
        p.warnings ⟨true, isSafe⟩ (scriptLocals (layout.placed ⟨false, isSafe⟩)) := by
    intro p hp
    by_cases hwritten : p.isWritten = true
    · refine Placed.warnings_congr ?_
      rw [reportsDuplicate_iff] at hplain hunique
      rw [h] at hunique
      push Not at hplain hunique
      rw [hplain p hp hwritten, hunique p hp hwritten]
    · rw [Placed.warnings, Placed.warnings, if_neg hwritten, if_neg hwritten]
  refine ⟨?_, hplain, hunique⟩
  rw [toScript, toScript, statements, statements, h]
  simp only [Export.mk.injEq, and_true, true_and]
  exact List.flatMap_congr hwarnings

end Layout

/-! ### The scripts of both -/

theorem Identifier.suffixed_ne_self (s : String) (n : Nat) : suffixed s n ≠ s := by
  intro h
  have hlength := congrArg String.length h
  rw [suffixed, String.length_append, String.length_append] at hlength
  have : "_".length = 1 := rfl
  omega

theorem renderScript_append {front behind : List Statement} (hf : front ≠ []) (hb : behind ≠ []) :
    renderScript (front ++ behind) = renderScript front ++ "\n" ++ renderScript behind := by
  rw [renderScript, List.map_append, String.intercalate_append_of_ne_nil (by simpa using hf)
    (by simpa using hb)]
  rfl

/-- A declaration writes its name, and a blank behind it. -/
theorem exists_renderScript_declare (name className : String) (rest : List Statement) :
    ∃ tail, renderScript (.declare name className :: rest) = "local " ++ name ++ " " ++ tail := by
  have hline : (Statement.declare name className).render =
      "local " ++ name ++ " " ++ ("= Instance.new(\"" ++ className ++ "\")") := by
    have hblank : " = Instance.new(\"" = " " ++ "= Instance.new(\"" := by decide
    rw [Statement.render_declare, hblank]
    simp only [String.append_assoc]
  exact ⟨_, by rw [renderScript, List.map_cons, hline, String.intercalate_cons_append]⟩

/-- Scripts that part at a declaration, where the one adds a number to the name, differ. -/
theorem renderScript_ne_of_suffixed {front : List Statement} (hf : front ≠ [])
    (name className className' : String) (n : Nat) (rest rest' : List Statement) :
    renderScript (front ++ .declare name className :: rest) ≠
      renderScript (front ++ .declare (Identifier.suffixed name n) className' :: rest') := by
  obtain ⟨tail, htail⟩ := exists_renderScript_declare name className rest
  obtain ⟨tail', htail'⟩ := exists_renderScript_declare (Identifier.suffixed name n) className' rest'
  rw [renderScript_append hf (by simp), renderScript_append hf (by simp), htail, htail']
  intro h
  have hchars := congrArg String.toList h
  simp [Identifier.suffixed] at hchars

namespace Layout

/-- The block of a written item stands behind those of the items in front of it. -/
theorem statements_of_placed {layout : Layout} {options : ExportOptions} {front behind : List Placed}
    {p : Placed} (h : layout.placed options = front ++ p :: behind) (hwritten : p.isWritten = true) :
    layout.statements options =
      preamble ++ (front.filter (·.isWritten)).flatMap (·.block options.safeText) ++
        (p.block options.safeText ++
          (behind.filter (·.isWritten)).flatMap (·.block options.safeText)) := by
  rw [statements, h, List.filter_append, List.filter_cons_of_pos hwritten, List.flatMap_append,
    List.flatMap_cons, List.append_assoc]

/-- The block of a written item begins with an empty line and its declaration. -/
theorem exists_statements_of_placed {layout : Layout} {options : ExportOptions}
    {front behind : List Placed} {p : Placed} (h : layout.placed options = front ++ p :: behind)
    (hwritten : p.isWritten = true) :
    ∃ rest, layout.statements options =
      (preamble ++ (front.filter (·.isWritten)).flatMap (·.block options.safeText) ++ [.blank]) ++
        .declare p.identifier (className p.item.type) :: rest := by
  refine ⟨(p.item.properties options.safeText).map (fun q => .assign p.identifier q.1 q.2) ++
    p.item.shapeStatements p.identifier ++
      (behind.filter (·.isWritten)).flatMap (·.block options.safeText), ?_⟩
  rw [statements_of_placed h hwritten, Placed.block, Item.block]
  simp only [List.append_assoc, List.cons_append, List.nil_append]

/-- Where the placements part, both exports report a duplicate and the scripts differ. -/
theorem script_ne_of_partsAt {layout : Layout} {isSafe : Bool}
    (h : PartsAt [rootName] (layout.placed ⟨false, isSafe⟩) (layout.placed ⟨true, isSafe⟩)) :
    (layout.toScript ⟨false, isSafe⟩).ReportsDuplicate ∧
      (layout.toScript ⟨true, isSafe⟩).ReportsDuplicate ∧
      (layout.toScript ⟨false, isSafe⟩).script ≠ (layout.toScript ⟨true, isSafe⟩).script := by
  obtain ⟨front, p, n, behind, behind', hplain, hunique, hwritten, hid, name, hlocal, hname⟩ := h
  refine ⟨?_, ?_, ?_⟩
  · rw [reportsDuplicate_plain_iff, hplain]
    intro hnodup
    have hsplit : scriptLocals (front ++ p :: behind) =
        (rootName :: writtenLocals front) ++ (p.locals ++ writtenLocals behind) := by
      rw [scriptLocals, ← writtenLocals, writtenLocals_append]
      simp [writtenLocals, hwritten]
    rw [hsplit] at hnodup
    refine (List.nodup_append.1 hnodup).2.2 name ?_ name (List.mem_append_left _ hlocal) rfl
    simpa [or_comm] using hname
  · rw [reportsDuplicate_unique_iff, hunique]
    exact ⟨_, List.mem_append_right _ List.mem_cons_self, hwritten,
      Identifier.suffixed_ne_self p.natural n⟩
  · obtain ⟨rest, hrest⟩ := exists_statements_of_placed hplain hwritten
    obtain ⟨rest', hrest'⟩ := exists_statements_of_placed hunique hwritten
    show renderScript (layout.statements ⟨false, isSafe⟩) ≠
      renderScript (layout.statements ⟨true, isSafe⟩)
    rw [hrest, hrest', hid]
    refine renderScript_ne_of_suffixed ?_ _ _ _ _ _ _
    exact List.append_ne_nil_of_right_ne_nil _ (List.cons_ne_nil _ _)

/-- Unique names change nothing exactly if the export without them reports no duplicate; they are
reported with unique names exactly if without, and then the scripts differ. -/
theorem toScript_eq_iff_not_reportsDuplicate (layout : Layout) (isSafe : Bool) :
    let plain := layout.toScript ⟨false, isSafe⟩
    let unique := layout.toScript ⟨true, isSafe⟩
    (plain = unique ↔ ¬plain.ReportsDuplicate) ∧
      (unique.ReportsDuplicate ↔ plain.ReportsDuplicate) ∧
      (plain.ReportsDuplicate → plain.script ≠ unique.script) := by
  intro plain unique
  rcases place_eq_or_partsAt isSafe [rootName] (layout.items.filter (·.exported)).zipIdx with h | h
  · obtain ⟨heq, hplain, hunique⟩ := toScript_eq_of_placed_eq h
    exact ⟨iff_of_true heq hplain, iff_of_false hunique hplain, fun hreports => absurd hreports hplain⟩
  · obtain ⟨hplain, hunique, hscript⟩ := script_ne_of_partsAt h
    exact ⟨iff_of_false (fun heq => hscript (congrArg Export.script heq)) (not_not_intro hplain),
      iff_of_true hunique hplain, fun _ => hscript⟩

end Layout

end LuauLayout
