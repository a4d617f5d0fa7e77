import OrderDesk.Symbol

/-!
# What is in upper case stays as it is

Symbols are put in upper case again and again: a request's when it is read, a coin's when it is
looked for, the symbol of a pair when it is written. That this does no harm rests on one fact
about the tables: what upper case puts in place of a character is in upper case
(`upper_upper`). The other fact that is needed is that a separator comes from a separator only.

Both are facts about two finite sets of code points, those that upper case moves (`moved`) and
those that it moves them to (`capitals`). That the two sets have nothing in common is one
comparison of numbers, when each set is written as the number whose bits are its members.
-/

namespace OrderDesk.Text

/-! ## Sets of code points as numbers -/

/-- The number with a bit for each code point. -/
def mask (codes : List Nat) : Nat := codes.foldr (fun code m => Number.twoTo code ||| m) 0

theorem testBit_twoTo (code n : Nat) : (Number.twoTo code).testBit n = decide (code = n) :=
  Nat.testBit_two_pow

theorem testBit_mask {codes : List Nat} {n : Nat} : (mask codes).testBit n = true ↔ n ∈ codes := by
  induction codes with
  | nil => simp [mask]
  | cons code rest ih =>
    rw [show mask (code :: rest) = Number.twoTo code ||| mask rest from rfl, Nat.testBit_or,
      Bool.or_eq_true, testBit_twoTo, decide_eq_true_eq, ih, List.mem_cons]
    exact or_congr_left eq_comm

/-- Two sets have nothing in common when their numbers have not. -/
theorem not_mem_of_mask {xs ys : List Nat} (apart : mask xs &&& mask ys = 0) {n : Nat}
    (mem : n ∈ xs) : n ∉ ys := by
  intro other
  have both : (mask xs &&& mask ys).testBit n = true := by
    rw [Nat.testBit_and, testBit_mask.mpr mem, testBit_mask.mpr other]
    rfl
  rw [apart, Nat.zero_testBit] at both
  cases both

/-! ## The code points of the tables -/

/-- The members of a run. -/
def CaseRun.members (run : CaseRun) : List Nat :=
  (List.range ((run.last - run.first) / run.stride + 1)).map fun k => run.first + run.stride * k

/-- **The code points that upper case moves.** -/
def moved : List Nat := upperExpansions.map (·.1) ++ upperRuns.flatMap CaseRun.members

/-- **The code points that upper case moves others to.** -/
def capitals : List Nat :=
  upperExpansions.flatMap (·.2)
    ++ upperRuns.flatMap fun run => run.members.map fun (n : Nat) => ((n : Int) + run.delta).toNat

theorem CaseRun.mem_members {run : CaseRun} {code : Nat} (covered : run.covers code) :
    code ∈ run.members := by
  simp only [covers, Bool.and_eq_true, decide_eq_true_eq, beq_iff_eq] at covered
  obtain ⟨⟨above, below⟩, onStride⟩ := covered
  refine List.mem_map.mpr ⟨(code - run.first) / run.stride, ?_, ?_⟩
  · rw [List.mem_range, Nat.lt_succ_iff]
    exact Nat.div_le_div_right (Nat.sub_le_sub_right below _)
  · rw [Nat.mul_div_cancel' (Nat.dvd_of_mod_eq_zero onStride), Nat.add_sub_cancel' above]

/-- A character that is not moved stays. -/
theorem upperOf_of_not_mem_moved {c : Char} (still : c.toNat ∉ moved) : upperOf c = [c] := by
  have unexpanded : upperExpansions.lookup c.toNat = none := by
    refine List.lookup_eq_none_iff.mpr fun e among => bne_iff_ne.mpr fun same => still ?_
    exact List.mem_append_left _ (List.mem_map.mpr ⟨e, among, same.symm⟩)
  have uncovered : upperRuns.find? (·.covers c.toNat) = none := by
    refine List.find?_eq_none.mpr fun run among covered => still ?_
    exact List.mem_append_right _ (List.mem_flatMap.mpr ⟨run, among, CaseRun.mem_members covered⟩)
  rw [upperOf, unexpanded, mapByRuns, uncovered]

/-- **A character stays, or capitals take its place.** -/
theorem upperOf_cases (c : Char) :
    upperOf c = [c] ∨ ∀ x ∈ upperOf c, ∃ code ∈ capitals, x = Char.ofNat code := by
  unfold upperOf
  split
  next codes found =>
    obtain ⟨before, later, split, -⟩ := List.lookup_eq_some_iff.mp found
    refine .inr fun x among => ?_
    obtain ⟨code, its, rfl⟩ := List.mem_map.mp among
    refine ⟨code, List.mem_append_left _ (List.mem_flatMap.mpr ⟨(c.toNat, codes), ?_, its⟩), rfl⟩
    exact split ▸ List.mem_append_right _ List.mem_cons_self
  next =>
    unfold mapByRuns
    split
    next run found =>
      refine .inr fun x among => ⟨((c.toNat : Int) + run.delta).toNat, ?_, ?_⟩
      · have covered : run.covers c.toNat := by simpa using List.find?_some found
        exact List.mem_append_right _ (List.mem_flatMap.mpr
          ⟨run, List.mem_of_find?_eq_some found,
            List.mem_map.mpr ⟨c.toNat, CaseRun.mem_members covered, rfl⟩⟩)
      · exact List.mem_singleton.mp among
    next => exact .inl rfl

/-- Nothing is moved to where it would be moved again. -/
theorem not_mem_moved_of_mem_capitals {code : Nat} (mem : code ∈ capitals) : code ∉ moved :=
  not_mem_of_mask (by decide +kernel) mem

/-- Whatever a character is moved to is a character. -/
theorem isValidChar_of_mem_capitals : ∀ code ∈ capitals, code.isValidChar := by decide +kernel

theorem toNat_ofNat_of_mem_capitals {code : Nat} (mem : code ∈ capitals) :
    (Char.ofNat code).toNat = code := by
  rw [Char.ofNat, dif_pos (isValidChar_of_mem_capitals code mem)]
  rfl

/-! ## Upper case twice -/

/-- **What takes the place of a character stays.** -/
theorem upperOf_of_mem_upperOf {c x : Char} (mem : x ∈ upperOf c) : upperOf x = [x] := by
  rcases upperOf_cases c with stays | goes
  · rw [stays, List.mem_singleton] at mem
    rwa [mem]
  · obtain ⟨code, capital, rfl⟩ := goes x mem
    refine upperOf_of_not_mem_moved ?_
    rw [toNat_ofNat_of_mem_capitals capital]
    exact not_mem_moved_of_mem_capitals capital

/-- A row of characters that all stay. -/
theorem upperChars_of_forall {cs : List Char} (stay : ∀ c ∈ cs, upperOf c = [c]) :
    upperChars cs = cs := by
  induction cs with
  | nil => rfl
  | cons c rest ih =>
    obtain ⟨first, others⟩ := List.forall_mem_cons.mp stay
    rw [upperChars, List.flatMap_cons, first, ← upperChars, ih others]
    rfl

/-- A text is in upper case when each of its characters is. -/
theorem upper_of_forall {s : String} (stay : ∀ c ∈ s.toList, upperOf c = [c]) : upper s = s := by
  rw [upper, upperChars_of_forall stay, String.ofList_toList]

theorem toList_upper (s : String) : (upper s).toList = upperChars s.toList := String.toList_ofList

/-- **A text in upper case stays as it is.** -/
theorem upper_upper (s : String) : upper (upper s) = upper s := by
  refine upper_of_forall fun x mem => ?_
  rw [toList_upper, upperChars, List.mem_flatMap] at mem
  obtain ⟨c, -, mem⟩ := mem
  exact upperOf_of_mem_upperOf mem

/-! ## Separators -/

/-- **A separator comes from a separator only.** -/
theorem eq_of_isSeparator {c x : Char} (mem : x ∈ upperOf c) (separator : Pair.isSeparator x) :
    x = c := by
  rcases upperOf_cases c with stays | goes
  · rwa [stays, List.mem_singleton] at mem
  · obtain ⟨code, capital, rfl⟩ := goes x mem
    have none : ∀ n ∈ capitals, ¬ Pair.isSeparator (Char.ofNat n) := by decide +kernel
    exact absurd separator (none code capital)

end OrderDesk.Text
