import LuauLayout.Command.Arguments
import LuauLayout.Proofs.PathResolution

/-! The flag for strictness in front of the words of a request.  It is read first and stays on, and all
words behind it mean what they meant without it. -/

namespace LuauLayout.Arguments

variable {rules : Rules} {words : List String} {request : Request}

/-- The state with the flag for strictness. -/
def State.beStrict (st : State) : State := { st with strict := true }

theorem State.set_beStrict {st st' : State} {f : Flag} (h : st.set f = .ok st') :
    st.beStrict.set f = .ok st'.beStrict := by
  cases f <;> cases h <;> rfl

theorem State.foldlM_set_beStrict {flags : List Flag} {st st' : State}
    (h : flags.foldlM State.set st = .ok st') :
    flags.foldlM State.set st.beStrict = .ok st'.beStrict := by
  induction flags generalizing st with
  | nil =>
    obtain rfl := Except.ok.inj h
    rfl
  | cons f flags ih =>
    rw [List.foldlM_cons, bind_eq_ok_iff] at h ⊢
    obtain ⟨next, hnext, hrest⟩ := h
    exact ⟨next.beStrict, set_beStrict hnext, ih hrest⟩

/-- What goes on strictly from each state goes on so once flags are set. -/
theorem bind_set_beStrict {flags : List Flag} {st : State} {α : Type} {a a' : α}
    {next next' : State → Except Stop α}
    (hnext : ∀ st', next st' = .ok a → next' st'.beStrict = .ok a')
    (h : flags.foldlM State.set st >>= next = .ok a) :
    flags.foldlM State.set st.beStrict >>= next' = .ok a' := by
  obtain ⟨st', hset, hrest⟩ := bind_eq_ok_iff.1 h
  exact bind_eq_ok_iff.2 ⟨st'.beStrict, State.foldlM_set_beStrict hset, hnext st' hrest⟩

theorem State.addArgument_beStrict (st : State) (s : String) :
    st.beStrict.addArgument s = (st.addArgument s).beStrict := by
  obtain ⟨layout, output, uniqueNames, safeText, strict, extra⟩ := st
  cases layout <;> rfl

theorem walk_beStrict {st st' : State} {isLast isLast' : Bool} {ws : List Word}
    (h : walk rules st isLast ws = .ok (st', isLast')) :
    walk rules st.beStrict isLast ws = .ok (st'.beStrict, isLast') := by
  fun_induction walk rules st isLast ws with
  | case1 st isLast =>
    obtain ⟨rfl, rfl⟩ := Prod.mk.inj (Except.ok.inj h)
    rfl
  | case2 st isLast s rest ih =>
    rw [walk, State.addArgument_beStrict]
    exact ih h
  | case3 st isLast s rest ih => exact ih h
  | case4 st isLast f isShort attached rest fault hflags => cases h
  | case5 st isLast f isShort attached rest flags hflags ih =>
    simp only [walk, hflags]
    exact bind_set_beStrict ih h
  | case6 st isLast f isShort attached rest flags s hflags ih =>
    simp only [walk, hflags]
    exact bind_set_beStrict ih h
  | case7 st isLast f isShort attached rest flags s hflags ih =>
    simp only [walk, hflags]
    exact bind_set_beStrict ih h
  | case8 st isLast f isShort attached flags g hflags s rest ih =>
    simp only [walk, hflags]
    exact bind_set_beStrict ih h
  | case9 st isLast f isShort attached rest flags g hflags hrest => cases h

theorem finish_beStrict (st : State) (isLast : Bool) (behind : Option (List String)) :
    finish st.beStrict isLast behind = (finish st isLast behind).beStrict := by
  obtain ⟨layout, output, uniqueNames, safeText, strict, extra⟩ := st
  cases behind with
  | none => rfl
  | some words => cases layout <;> cases words <;> rfl

theorem toRequest_beStrict {st : State} {request : Request} (h : st.toRequest = .ok request) :
    st.beStrict.toRequest = .ok { request with strict := true } := by
  obtain ⟨layout, output, uniqueNames, safeText, strict, extra⟩ := st
  cases layout <;> cases extra <;> cases h
  rfl

theorem splitDashes_cons {word : String} (h : word ≠ "--") (words : List String) :
    splitDashes (word :: words) = (word :: (splitDashes words).1, (splitDashes words).2) := by
  rw [splitDashes, splitDashes, List.dropWhile_cons_of_pos (by simpa using h),
    List.takeWhile_cons_of_pos (by simpa using h)]
  cases words.dropWhile (· != "--") <;> rfl

/-- Words are a request exactly if all of them are classified, the flags among them can be set, and
nothing is missing or left over. -/
theorem parse_eq_ok_iff :
    parse rules words = .ok request ↔ ∃ classified st isLast,
      (splitDashes words).1.mapM classify = .ok classified ∧
      walk rules {} false classified = .ok (st, isLast) ∧
      (finish st isLast (splitDashes words).2).toRequest = .ok request := by
  constructor
  · intro h
    obtain ⟨classified, hclassified, h⟩ := bind_eq_ok_iff.1 h
    obtain ⟨⟨st, isLast⟩, hwalk, hrequest⟩ := bind_eq_ok_iff.1 h
    exact ⟨classified, st, isLast, mapError_eq_ok_iff.1 hclassified, hwalk, hrequest⟩
  · rintro ⟨classified, st, isLast, hclassified, hwalk, hrequest⟩
    exact bind_eq_ok_iff.2 ⟨classified, mapError_eq_ok_iff.2 hclassified,
      bind_eq_ok_iff.2 ⟨(st, isLast), hwalk, hrequest⟩⟩

/-- The flag for strictness in front of the words of a request asks for the same strictly. -/
theorem parse_strict (h : parse rules words = .ok request) :
    parse rules ("--strict" :: words) = .ok { request with strict := true } := by
  have hflag : classify "--strict" = .ok (.flag .strict false none) := by decide
  obtain ⟨classified, st, isLast, hclassified, hwalk, hrequest⟩ := parse_eq_ok_iff.1 h
  refine parse_eq_ok_iff.2 ⟨.flag .strict false none :: classified, st.beStrict, isLast, ?_, ?_, ?_⟩
  · rw [splitDashes_cons (by decide), List.mapM_cons, hflag, hclassified]
    rfl
  · exact walk_beStrict hwalk
  · rw [splitDashes_cons (by decide), finish_beStrict]
    exact toRequest_beStrict hrequest

end LuauLayout.Arguments
