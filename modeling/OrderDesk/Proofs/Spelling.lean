import Mathlib.Data.List.Dedup
import Mathlib.Data.List.TakeWhile
import OrderDesk.Proofs.Asking
import OrderDesk.Proofs.Capitals

/-!
# How a restriction is spelled

A restriction on orders is written as a text with commas or as a list of texts, in any order, in
small letters or large ones, with blanks around the words and some words said twice. None of this
may show in the answer, nor in the complaint about a word that means nothing. What a restriction
means is decided by its words alone (`OrderFilters.restrictions_are_canonical`), and a text spells
the word that is left when it is trimmed and put in upper case.

Trimming comes first. Had some letter a blank in its upper form, a word could come out of it with
blanks around, and would not be the same word when it is read again. That trimming and upper case
can change places (`Text.upper_trim`) rests on the tables of letters: no letter has such a form.

Two spellings differ in letter case only when they have the same upper form. For plain letters this
is what one expects (`Text.upper_toLower`); there are letters whose small form has another upper
form than they have, and for these it is not.
-/

namespace OrderDesk

/-! ## Blanks and upper case -/

namespace Text

/-- A blank stays in upper case. -/
theorem upperOf_of_isBlank {c : Char} (blank : isBlank c) : upperOf c = [c] := by
  have none : ∀ code ∈ moved, isBlankCode code = false := by decide +kernel
  refine upperOf_of_not_mem_moved fun mem => ?_
  have plain := none _ mem
  rw [isBlank, plain] at blank
  cases blank

/-- **A blank comes from a blank only.** -/
theorem isBlank_of_mem_upperOf {c x : Char} (mem : x ∈ upperOf c) : isBlank x = isBlank c := by
  rcases upperOf_cases c with same | goes
  · rw [same, List.mem_singleton] at mem
    rw [mem]
  · obtain ⟨code, capital, rfl⟩ := goes x mem
    have none : ∀ code ∈ capitals, isBlankCode code = false := by decide +kernel
    have plain : isBlank (Char.ofNat code) = false := by
      rw [isBlank, toNat_ofNat_of_mem_capitals capital, none code capital]
    cases blank : isBlank c with
    | false => exact plain
    | true =>
      rw [upperOf_of_isBlank blank, List.mem_singleton] at mem
      rw [mem, blank]

theorem upperOf_ne_nil (c : Char) : upperOf c ≠ [] := by
  unfold upperOf
  split
  next codes found =>
    obtain ⟨before, later, split, -⟩ := List.lookup_eq_some_iff.mp found
    have nonempty : ∀ entry ∈ upperExpansions, entry.2 ≠ [] := by decide
    have its := nonempty (c.toNat, codes) (split ▸ List.mem_append_right _ List.mem_cons_self)
    exact fun empty => its (List.map_eq_nil_iff.mp empty)
  next => exact List.cons_ne_nil _ _

/-- **Blanks are kept apart**: a blank stays, what takes the place of another character has no
blank, and no character is left out. -/
structure KeepsBlanks (f : Char → List Char) : Prop where
  stays : ∀ c, isBlank c → f c = [c]
  apart : ∀ c, ∀ x ∈ f c, isBlank x = isBlank c
  some : ∀ c, f c ≠ []

theorem keepsBlanks_upperOf : KeepsBlanks upperOf :=
  ⟨fun _ => upperOf_of_isBlank, fun _ _ => isBlank_of_mem_upperOf, upperOf_ne_nil⟩

namespace KeepsBlanks

variable {f : Char → List Char}

theorem reverse (keeps : KeepsBlanks f) : KeepsBlanks (List.reverse ∘ f) where
  stays c blank := by rw [Function.comp_apply, keeps.stays c blank, List.reverse_singleton]
  apart c x mem := keeps.apart c x (List.mem_reverse.mp mem)
  some c empty := keeps.some c (List.reverse_eq_nil_iff.mp empty)

/-- The blanks at the start stay there. -/
theorem dropWhile_flatMap (keeps : KeepsBlanks f) (cs : List Char) :
    (cs.flatMap f).dropWhile isBlank = (cs.dropWhile isBlank).flatMap f := by
  induction cs with
  | nil => rfl
  | cons c rest ih =>
    cases blank : isBlank c with
    | true =>
      rw [List.flatMap_cons, keeps.stays c blank, List.singleton_append,
        List.dropWhile_cons_of_pos blank, List.dropWhile_cons_of_pos blank, ih]
    | false =>
      obtain ⟨x, others, image⟩ := List.exists_cons_of_ne_nil (keeps.some c)
      have first : isBlank x = false := by
        rw [keeps.apart c x (image ▸ List.mem_cons_self), blank]
      rw [List.dropWhile_cons_of_neg (by rw [blank]; nofun), List.flatMap_cons, image,
        List.cons_append, List.dropWhile_cons_of_neg (by rw [first]; nofun)]

/-- **The blanks at either end stay there.** -/
theorem trimChars_flatMap (keeps : KeepsBlanks f) (cs : List Char) :
    trimChars (cs.flatMap f) = (trimChars cs).flatMap f := by
  unfold trimChars trimBy
  rw [keeps.dropWhile_flatMap, List.reverse_flatMap, keeps.reverse.dropWhile_flatMap,
    List.reverse_flatMap, ← Function.comp_assoc]
  congr 1
  funext c
  exact List.reverse_reverse _

end KeepsBlanks

/-- **Trimming and upper case can change places.** -/
theorem upper_trim (s : String) : upper (trim s) = trim (upper s) := by
  rw [upper, trim, trim, toList_upper, String.toList_ofList]
  exact congrArg String.ofList (keepsBlanks_upperOf.trimChars_flatMap s.toList).symm

theorem upper_eq_empty_iff {s : String} : upper s = "" ↔ s = "" := by
  rw [← String.toList_eq_nil_iff, toList_upper, upperChars, List.flatMap_eq_nil_iff,
    ← String.toList_eq_nil_iff, List.eq_nil_iff_forall_not_mem]
  exact forall₂_congr fun c _ => iff_of_false (upperOf_ne_nil c) id

/-- A plain letter has the same upper form when it is written small. -/
theorem upperOf_toLower (c : Char) : upperOf c.toLower = upperOf c := by
  have letters : ∀ k ∈ List.range 26,
      upperOf (Char.ofNat (65 + k)).toLower = upperOf (Char.ofNat (65 + k)) := by decide +kernel
  by_cases large : 65 ≤ c.toNat ∧ c.toNat ≤ 90
  · have same : Char.ofNat (65 + (c.toNat - 65)) = c := by
      rw [Nat.add_sub_cancel' large.1, Char.ofNat_toNat]
    have its := letters (c.toNat - 65) (List.mem_range.mpr (by omega))
    rwa [same] at its
  · rw [show c.toLower = c from dif_neg large]

/-- **Plain letters may be written small.** -/
theorem upper_toLower (s : String) : upper s.toLower = upper s := by
  show upper (s.map Char.toLower) = upper s
  rw [upper, upper, String.toList_map, upperChars, List.flatMap_map, upperChars]
  simp only [upperOf_toLower]

-- the sign for kelvins is a capital, and its small form is a plain letter
example : upper "\u212a" = "\u212a" ∧ upper (lower "\u212a") = "K" := by decide +kernel

/-- A text of blanks only, or of nothing. -/
def AllBlank (s : String) : Prop := ∀ c ∈ s.toList, isBlank c

/-- **Blanks around a text** are trimmed away, whatever it is. -/
theorem trim_surrounded {before after : String} (first : AllBlank before) (last : AllBlank after)
    (s : String) : trim (before ++ s ++ after) = trim s := by
  have none : after.toList.dropWhile isBlank = [] := List.dropWhile_eq_nil_iff.mpr last
  have back : ∀ c ∈ after.toList.reverse, isBlank c := fun c mem => last c (List.mem_reverse.mp mem)
  unfold trim trimChars trimBy
  rw [String.toList_append, String.toList_append, List.append_assoc,
    List.dropWhile_append_of_pos first, List.dropWhile_append, none]
  split
  next empty => rw [List.isEmpty_iff.mp empty]
  next => rw [List.reverse_append, List.dropWhile_append_of_pos back]

/-- A text is what trimming leaves of it, with blanks around it. -/
theorem exists_surrounded (s : String) :
    ∃ before after, AllBlank before ∧ AllBlank after ∧ s = before ++ trim s ++ after := by
  let tail := s.toList.dropWhile isBlank
  refine ⟨.ofList (s.toList.takeWhile isBlank), .ofList (tail.reverse.takeWhile isBlank).reverse,
    fun c mem => ?_, fun c mem => ?_, ?_⟩
  · rw [String.toList_ofList] at mem
    exact List.mem_takeWhile_imp mem
  · rw [String.toList_ofList, List.mem_reverse] at mem
    exact List.mem_takeWhile_imp mem
  · refine String.toList_injective ?_
    rw [String.toList_append, String.toList_append, trim, trimChars, trimBy, String.toList_ofList,
      String.toList_ofList, String.toList_ofList, List.append_assoc, ← List.reverse_append,
      List.takeWhile_append_dropWhile, List.reverse_reverse, List.takeWhile_append_dropWhile]

theorem trim_trim (s : String) : trim (trim s) = trim s := by
  obtain ⟨before, after, first, last, split⟩ := exists_surrounded s
  have trimmed := trim_surrounded first last (trim s)
  rwa [← split, eq_comm] at trimmed

theorem trim_eq_empty_iff {s : String} : trim s = "" ↔ AllBlank s := by
  constructor
  · intro empty
    obtain ⟨before, after, first, last, split⟩ := exists_surrounded s
    rw [split, empty]
    intro c mem
    simp only [String.toList_append, List.mem_append] at mem
    rcases mem with (mem | mem) | mem
    · exact first c mem
    · cases mem
    · exact last c mem
  · intro blank
    have none : AllBlank "" := nofun
    have trimmed := trim_surrounded blank none ""
    rw [String.append_empty, String.append_empty] at trimmed
    exact trimmed

end Text

/-! ## Words in order -/

namespace FilterText

/-- **A list of words**: those that are wanted, each once and in ascending order. -/
structure Lists (ws : List String) (wanted : String → Prop) : Prop where
  mem : ∀ w, w ∈ ws ↔ wanted w
  ascending : ws.Pairwise (· < ·)

/-- **There is one list of words** only. -/
theorem Lists.unique {xs ys : List String} {wanted : String → Prop} (first : Lists xs wanted)
    (second : Lists ys wanted) : xs = ys := by
  have once {ws : List String} (ascending : ws.Pairwise (· < ·)) : ws.Nodup := by
    refine ascending.imp ?_
    rintro a _ less rfl
    exact String.lt_irrefl a less
  have perm : xs.Perm ys :=
    (List.perm_ext_iff_of_nodup (once first.ascending) (once second.ascending)).mpr fun w =>
      (first.mem w).trans (second.mem w).symm
  refine perm.eq_of_pairwise (fun a b _ _ less greater => ?_) first.ascending second.ascending
  exact absurd (String.lt_trans less greater) (String.lt_irrefl a)

theorem Lists.exists_wanted {ws : List String} {wanted : String → Prop} (lists : Lists ws wanted)
    (nonempty : ws ≠ []) : ∃ w, wanted w := by
  obtain ⟨w, mem⟩ := List.exists_mem_of_ne_nil ws nonempty
  exact ⟨w, (lists.mem w).mp mem⟩

/-- Words that do not descend ascend when repetitions are left out. -/
theorem pairwise_eraseReps {ws : List String} (sorted : ws.Pairwise (· ≤ ·)) :
    ws.eraseReps.Pairwise (· < ·) := by
  -- what is done stands in reverse, and below the word that comes next
  have loop (r : String) (rest done : List String) (sorted : (r :: rest).Pairwise (· ≤ ·))
      (below : ∀ d ∈ done, d < r) (falling : done.Pairwise fun a b => b < a) :
      (List.eraseRepsBy.loop (· == ·) r rest done).Pairwise (· < ·) := by
    induction rest generalizing r done with
    | nil => exact List.pairwise_reverse.mpr (List.pairwise_cons.mpr ⟨below, falling⟩)
    | cons next rest ih =>
      obtain ⟨least, sorted⟩ := List.pairwise_cons.mp sorted
      rw [List.eraseRepsBy.loop]
      split
      next same => exact ih r done (beq_iff_eq.mp same ▸ sorted) below falling
      next differs =>
        have less : r < next :=
          Std.lt_of_le_of_ne (least next List.mem_cons_self) (beq_eq_false_iff_ne.mp differs)
        refine ih next (r :: done) sorted (fun d mem => ?_)
          (List.pairwise_cons.mpr ⟨below, falling⟩)
        rcases List.mem_cons.mp mem with rfl | mem
        · exact less
        · exact String.lt_trans (below d mem) less
  cases ws with
  | nil => exact List.Pairwise.nil
  | cons first rest => exact loop first rest [] sorted (List.forall_mem_nil _) List.Pairwise.nil

/-- **Words are put in order.** -/
theorem lists_canonical (ws : List String) : Lists (canonical ws) (· ∈ ws) := by
  have sorted : (ws.mergeSort fun a b => decide (a ≤ b)).Pairwise fun a b =>
      decide (a ≤ b) = true := by
    refine List.pairwise_mergeSort (fun a b c first second => ?_) (fun a b => ?_) ws
    · rw [decide_eq_true_eq] at first second ⊢
      exact String.le_trans first second
    · simpa using String.le_total a b
  exact ⟨fun _ => mem_canonical, pairwise_eraseReps (sorted.imp of_decide_eq_true)⟩

/-- Words in order depend on no more than which words there are. -/
theorem canonical_congr {xs ys : List String} (same : ∀ w, w ∈ xs ↔ w ∈ ys) :
    canonical xs = canonical ys :=
  (lists_canonical xs).unique
    ⟨fun w => mem_canonical.trans (same w).symm, (lists_canonical ys).ascending⟩

/-! ## What is spelled -/

/-- **A text spells a word**: that is its upper form without the blanks around it, and it is not
empty. -/
def Spells (s w : String) : Prop := ¬ Text.AllBlank s ∧ Text.upper (Text.trim s) = w

/-- Texts of the same upper form spell the same words. -/
theorem spells_congr {s t w : String} (same : Text.upper s = Text.upper t) :
    Spells s w ↔ Spells t w := by
  have trimmed : Text.upper (Text.trim s) = Text.upper (Text.trim t) := by
    rw [Text.upper_trim, same, ← Text.upper_trim]
  rw [Spells, Spells, ← Text.trim_eq_empty_iff, ← Text.trim_eq_empty_iff,
    ← Text.upper_eq_empty_iff, trimmed, Text.upper_eq_empty_iff]

/-- Blanks around a text do not change what it spells. -/
theorem spells_surrounded {before after : String} (first : Text.AllBlank before)
    (last : Text.AllBlank after) {s w : String} : Spells (before ++ s ++ after) w ↔ Spells s w := by
  rw [Spells, Spells, ← Text.trim_eq_empty_iff, ← Text.trim_eq_empty_iff,
    Text.trim_surrounded first last]

/-- **A word spells itself.** -/
theorem Spells.self {s w : String} (spells : Spells s w) : Spells w w := by
  obtain ⟨some, rfl⟩ := spells
  rw [← Text.trim_eq_empty_iff, ← Text.upper_eq_empty_iff] at some
  rw [Spells, ← Text.trim_eq_empty_iff, ← Text.upper_trim, Text.trim_trim, Text.upper_upper]
  exact ⟨some, rfl⟩

/-- **A restriction has a word** when one of its texts spells it. -/
def HasWord (f : Option FilterText) (w : String) : Prop :=
  ∃ t, f = some t ∧ ∃ s ∈ t.rawWords, Spells s w

theorem hasWord_separate {xs : List String} {w : String} :
    HasWord (some (.separate xs)) w ↔ ∃ s ∈ xs, Spells s w := by
  simp [HasWord, rawWords]

/-- **The words of a restriction** are those that it has. -/
theorem mem_tokens {f : Option FilterText} {w : String} : w ∈ tokens f ↔ HasWord f w := by
  cases f with
  | none => exact iff_of_false List.not_mem_nil nofun
  | some t =>
    show w ∈ t.words ↔ _
    simp only [words, List.mem_filterMap, List.mem_map, exists_exists_and_eq_and, HasWord, Spells,
      ← Text.trim_eq_empty_iff, Option.ite_none_left_eq_some, Option.some.injEq,
      String.isEmpty_iff, exists_eq_left']

/-! ## Spelled in another way -/

/-- **The same words, spelled in another way**: in another order, one of them once more, in other
letters with the same upper form, with blanks around, or with a blank text beside them. -/
inductive Respelled : List String → List String → Prop where
  | order {xs ys : List String} (perm : xs.Perm ys) : Respelled xs ys
  | again (s : String) (rest : List String) : Respelled (s :: rest) (s :: s :: rest)
  | letters {s t : String} (same : Text.upper s = Text.upper t) (rest : List String) :
    Respelled (s :: rest) (t :: rest)
  | spaces {before after : String} (first : Text.AllBlank before) (last : Text.AllBlank after)
    (s : String) (rest : List String) : Respelled (s :: rest) ((before ++ s ++ after) :: rest)
  | blank {s : String} (blank : Text.AllBlank s) (rest : List String) : Respelled rest (s :: rest)
  | symm {xs ys : List String} (back : Respelled ys xs) : Respelled xs ys
  | trans {xs ys zs : List String} (first : Respelled xs ys) (next : Respelled ys zs) :
    Respelled xs zs

/-- **Other spellings have the same words.** -/
theorem Respelled.hasWord_iff {xs ys : List String} (respelled : Respelled xs ys) (w : String) :
    HasWord (some (separate xs)) w ↔ HasWord (some (separate ys)) w := by
  rw [hasWord_separate, hasWord_separate]
  induction respelled with
  | order perm => simp only [perm.mem_iff]
  | again s rest => simp only [List.exists_mem_cons_iff, or_self_left]
  | letters same rest => simp only [List.exists_mem_cons_iff, spells_congr same]
  | spaces first last s rest => simp only [List.exists_mem_cons_iff, spells_surrounded first last]
  | blank blank rest =>
    rw [List.exists_mem_cons_iff, or_iff_right fun spells => spells.1 blank]
  | symm _ ih => exact ih.symm
  | trans _ _ ih ih' => exact ih.trans ih'

/-- Texts that spell the same word stand for one another. -/
theorem Respelled.of_spells {s t w : String} (spells : Spells s w) (spells' : Spells t w)
    (rest : List String) : Respelled (s :: rest) (t :: rest) := by
  have trimmed (s : String) : Respelled (Text.trim s :: rest) (s :: rest) := by
    obtain ⟨before, after, first, last, split⟩ := Text.exists_surrounded s
    have around := Respelled.spaces first last (Text.trim s) rest
    rwa [← split] at around
  exact (trimmed s).symm.trans
    ((Respelled.letters (spells.2.trans spells'.2.symm) rest).trans (trimmed t))

/-- A text may be added when its word, if it has one, is already there. -/
theorem Respelled.add {xs : List String} {t : String}
    (there : ∀ w, Spells t w → HasWord (some (separate xs)) w) : Respelled xs (t :: xs) := by
  by_cases blank : Text.AllBlank t
  · exact .blank blank xs
  · have spells : Spells t (Text.upper (Text.trim t)) := ⟨blank, rfl⟩
    obtain ⟨s, mem, spells'⟩ := hasWord_separate.mp (there _ spells)
    obtain ⟨before, later, split⟩ := List.append_of_mem mem
    have front : xs.Perm (s :: (before ++ later)) := split ▸ List.perm_middle
    exact (Respelled.order front).trans <| (Respelled.again s _).trans <|
      (Respelled.of_spells spells' spells _).trans (.order (front.symm.cons t))

/-- **Lists have the same words** exactly when each can be respelled as the other. -/
theorem respelled_iff {xs ys : List String} : Respelled xs ys
    ↔ ∀ w, HasWord (some (separate xs)) w ↔ HasWord (some (separate ys)) w := by
  refine ⟨Respelled.hasWord_iff, fun same => ?_⟩
  -- the texts of each list are added to the other, one by one
  have both {xs : List String} (ys : List String)
      (within : ∀ t ∈ ys, ∀ w, Spells t w → HasWord (some (separate xs)) w) :
      Respelled xs (ys ++ xs) := by
    induction ys with
    | nil => exact .order (.refl xs)
    | cons t rest ih =>
      obtain ⟨first, others⟩ := List.forall_mem_cons.mp within
      have later := ih others
      exact later.trans (.add fun w spells => (later.hasWord_iff w).mp (first w spells))
  have left := both ys fun t mem w spells => (same w).mpr (hasWord_separate.mpr ⟨t, mem, spells⟩)
  have right := both xs fun t mem w spells => (same w).mp (hasWord_separate.mpr ⟨t, mem, spells⟩)
  exact left.trans ((Respelled.order List.perm_append_comm).trans right.symm)

/-- Plain letters may be written small in all texts. -/
theorem respelled_toLower (xs : List String) : Respelled xs (xs.map String.toLower) := by
  refine respelled_iff.mpr fun w => ?_
  simp only [hasWord_separate, List.mem_map, exists_exists_and_eq_and,
    spells_congr (Text.upper_toLower _)]

/-! ## The parts of a text -/

/-- **The parts of a text**: they have no commas, and with commas between them they are the text. -/
structure AreParts (parts : List String) (s : String) : Prop where
  some : parts ≠ []
  plain : ∀ part ∈ parts, ',' ∉ part.toList
  whole : ",".intercalate parts = s

theorem not_mem_of_mem_splitOn {c : Char} {cs : List Char} :
    ∀ part ∈ cs.splitOn c, c ∉ part := by
  induction cs with
  | nil => simp [List.splitOn_nil]
  | cons x rest ih =>
    rw [List.splitOn_cons_eq_if_modifyHead]
    split
    next => exact List.forall_mem_cons.mpr ⟨List.not_mem_nil, ih⟩
    next differs =>
      obtain ⟨first, others, split⟩ := List.exists_cons_of_ne_nil (List.splitOn_ne_nil c rest)
      rw [split] at ih ⊢
      obtain ⟨head, tail⟩ := List.forall_mem_cons.mp ih
      refine List.forall_mem_cons.mpr ⟨?_, tail⟩
      rw [List.mem_cons, not_or]
      exact ⟨fun same => differs (beq_iff_eq.mpr same.symm), head⟩

/-- **A text has parts in one way**: those that it is split into. -/
theorem areParts_iff {parts : List String} {s : String} : AreParts parts s ↔ parts = pieces s := by
  constructor
  · rintro ⟨some, plain, rfl⟩
    have apart : (List.intercalate [','] (parts.map String.toList)).splitOn ','
        = parts.map String.toList :=
      List.splitOn_intercalate ',' (List.forall_mem_map.mpr plain) (mt List.map_eq_nil_iff.mp some)
    rw [pieces, String.toList_intercalate, show ",".toList = [','] from rfl, apart, List.map_map]
    simp
  · rintro rfl
    refine ⟨mt List.map_eq_nil_iff.mp (List.splitOn_ne_nil _ _), fun part mem => ?_, ?_⟩
    · obtain ⟨cs, among, rfl⟩ := List.mem_map.mp mem
      rw [String.toList_ofList]
      exact not_mem_of_mem_splitOn cs among
    · refine String.toList_injective ?_
      rw [pieces, String.toList_intercalate, List.map_map, show ",".toList = [','] from rfl]
      simp

/-! ## What a restriction means -/

variable {α : Type} [Vocabulary α] {f g : Option FilterText}

/-- **A restriction means no more than its words.** -/
theorem parse_congr (same : ∀ w, HasWord f w ↔ HasWord g w) : parse α f = parse α g := by
  simp only [← mem_tokens] at same
  rw [parse_eq, parse_eq, canonical_congr same]

/-- **What a restriction means**: nothing when it has no words, else its words, unless some of them
are not in the vocabulary. -/
inductive Means (α : Type) [Vocabulary α] (f : Option FilterText) :
    Except (List String) (Option (List String)) → Prop where
  | nothing (silent : ∀ w, ¬ HasWord f w) : Means α f (.ok none)
  | words {ws : List String} (nonempty : ws ≠ []) (lists : Lists ws (HasWord f))
    (known : ∀ w, HasWord f w → w ∈ Vocabulary.names α) : Means α f (.ok (some ws))
  | foreign {ws : List String} (nonempty : ws ≠ [])
    (lists : Lists ws fun w => HasWord f w ∧ w ∉ Vocabulary.names α) : Means α f (.error ws)

theorem means_parse (α : Type) [Vocabulary α] (f : Option FilterText) : Means α f (parse α f) := by
  have listed : Lists (canonical (tokens f)) (HasWord f) :=
    ⟨fun w => mem_canonical.trans mem_tokens, (lists_canonical (tokens f)).ascending⟩
  by_cases names : Names α f
  · by_cases silent : tokens f = []
    · rw [parse_of_silent silent]
      exact .nothing fun w has => List.not_mem_nil (silent ▸ mem_tokens.mpr has)
    · rw [parse_of_known silent names]
      exact .words (mt canonical_eq_nil_iff.mp silent) listed fun w has =>
        names w (mem_tokens.mpr has)
  · have foreign : Lists ((canonical (tokens f)).filter (isForeign α))
        fun w => HasWord f w ∧ w ∉ Vocabulary.names α := by
      refine ⟨fun w => ?_, listed.ascending.filter _⟩
      rw [List.mem_filter, listed.mem, isForeign, Bool.not_eq_true', ← Bool.not_eq_true,
        List.contains_iff_mem]
    obtain ⟨w, mem, unknown⟩ : ∃ w ∈ tokens f, w ∉ Vocabulary.names α := by
      simpa [Names] using names
    rw [parse_of_foreign names]
    exact .foreign (List.ne_nil_of_mem ((foreign.mem w).mpr ⟨mem_tokens.mp mem, unknown⟩)) foreign

/-- A restriction without words means nothing, and one with words does not. -/
theorem parse_eq_ok_none_iff : parse α f = .ok none ↔ ∀ w, ¬ HasWord f w := by
  have means := means_parse α f
  generalize parse α f = r at means
  cases means with
  | nothing silent => exact iff_of_true rfl silent
  | words nonempty lists _ =>
    obtain ⟨w, has⟩ := lists.exists_wanted nonempty
    exact iff_of_false nofun fun silent => silent w has
  | foreign nonempty lists =>
    obtain ⟨w, has, _⟩ := lists.exists_wanted nonempty
    exact iff_of_false nofun fun silent => silent w has

/-- **A restriction is refused** exactly when it has a word that is not in the vocabulary. -/
theorem parse_fails_iff :
    (∃ ws, parse α f = .error ws) ↔ ∃ w, HasWord f w ∧ w ∉ Vocabulary.names α := by
  have means := means_parse α f
  generalize parse α f = r at means
  cases means with
  | nothing silent => exact iff_of_false nofun fun ⟨w, has, _⟩ => silent w has
  | words _ _ known => exact iff_of_false nofun fun ⟨w, has, unknown⟩ => unknown (known w has)
  | foreign nonempty lists => exact iff_of_true ⟨_, rfl⟩ (lists.exists_wanted nonempty)

/-- A word of a restriction spells no word but itself. -/
theorem HasWord.spells_iff {v w : String} (has : HasWord f v) : Spells v w ↔ v = w := by
  obtain ⟨t, -, s, -, spells⟩ := has
  exact ⟨fun spells' => spells.self.2.symm.trans spells'.2, fun same => same ▸ spells.self⟩

/-- **The words that a restriction means** are a restriction that means the same. -/
theorem parse_of_parse {ws xs : List String} (parsed : parse α f = .ok (some ws))
    (same : ∀ w, w ∈ xs ↔ w ∈ ws) : parse α (some (.separate xs)) = .ok (some ws) := by
  rw [← parsed]
  cases parsed ▸ means_parse α f with
  | words _ lists _ =>
    refine parse_congr fun w => ?_
    have its (v : String) : v ∈ xs ↔ HasWord f v := (same v).trans (lists.mem v)
    rw [hasWord_separate]
    constructor
    · rintro ⟨v, mem, spells⟩
      have has := (its v).mp mem
      exact has.spells_iff.mp spells ▸ has
    · exact fun has => ⟨w, (its w).mpr has, has.spells_iff.mpr rfl⟩

end FilterText

/-! ## Restrictions -/

namespace OrderFilters

open FilterText

variable {α : Type} [Vocabulary α] {name : String} {f : Option FilterText}

theorem column_eq_ok_iff {r : Option (List String)} :
    column α name f = .ok r ↔ parse α f = .ok r := by
  unfold column
  cases parse α f <;> simp [Except.mapError]

theorem column_eq_error_iff {failure : Failure} :
    column α name f = .error failure
      ↔ ∃ ws, parse α f = .error ws ∧ .refused (.invalidFilter name ws) = failure := by
  unfold column
  cases parse α f <;> simp [Except.mapError]

/-- **Restrictions are canonical**: what a restriction on a column means, or for which words it is
refused, depends on its words alone.

* Restrictions with the same words mean the same.
* A text means what any list means that spells its parts in some way, in any order and letter case,
  with any blanks and repetitions; so does a list.
* A restriction means nothing exactly when it has no words. What it means is else the list of its
  words, which is not empty; and these words, in any order, are a restriction that means the same.
* It is refused exactly when one of its words is not in the vocabulary, and then the refusal names
  all such words, each once and in ascending order. -/
theorem restrictions_are_canonical (α : Type) [Vocabulary α] (name : String) :
    (∀ f g, (∀ w, HasWord f w ↔ HasWord g w) → column α name f = column α name g)
    ∧ (∀ s, ∃ parts, AreParts parts s)
    ∧ (∀ s parts ys, AreParts parts s → Respelled parts ys →
      column α name (some (.joined s)) = column α name (some (.separate ys)))
    ∧ (∀ xs ys, Respelled xs ys →
      column α name (some (.separate xs)) = column α name (some (.separate ys)))
    ∧ (∀ xs, column α name (some (.separate (xs.map String.toLower)))
      = column α name (some (.separate xs)))
    ∧ ∀ f,
      (column α name f = .ok none ↔ ∀ w, ¬ HasWord f w)
      ∧ (∀ ws, column α name f = .ok (some ws) → ws ≠ [] ∧ Lists ws (HasWord f)
        ∧ ∀ xs, (∀ w, w ∈ xs ↔ w ∈ ws) → column α name (some (.separate xs)) = .ok (some ws))
      ∧ ((∃ failure, column α name f = .error failure)
        ↔ ∃ w, HasWord f w ∧ w ∉ Vocabulary.names α)
      ∧ ∀ failure, column α name f = .error failure →
        ∃ ws, Lists ws (fun w => HasWord f w ∧ w ∉ Vocabulary.names α)
          ∧ failure = .refused (.invalidFilter name ws)
          ∧ failure.message = "Invalid " ++ name ++ " filter: " ++ ", ".intercalate ws := by
  have congr (f g : Option FilterText) (same : ∀ w, HasWord f w ↔ HasWord g w) :
      column α name f = column α name g := by
    rw [column, column, parse_congr same]
  have respelled (xs ys : List String) (respelled : Respelled xs ys) :
      column α name (some (.separate xs)) = column α name (some (.separate ys)) :=
    congr _ _ respelled.hasWord_iff
  refine ⟨congr, fun s => ⟨_, areParts_iff.mpr rfl⟩, fun s parts ys parted other => ?_, respelled,
    fun xs => (respelled _ _ (respelled_toLower xs)).symm, fun f => ⟨?_, fun ws ok => ?_, ?_, ?_⟩⟩
  · rw [← respelled parts ys other, areParts_iff.mp parted]
    rfl
  · rw [column_eq_ok_iff, parse_eq_ok_none_iff]
  · rw [column_eq_ok_iff] at ok
    cases ok ▸ means_parse α f with
    | words nonempty lists _ =>
      exact ⟨nonempty, lists, fun xs same => column_eq_ok_iff.mpr (parse_of_parse ok same)⟩
  · rw [← parse_fails_iff]
    constructor
    · rintro ⟨failure, failed⟩
      obtain ⟨ws, foreign, -⟩ := column_eq_error_iff.mp failed
      exact ⟨ws, foreign⟩
    · rintro ⟨ws, foreign⟩
      exact ⟨_, column_eq_error_iff.mpr ⟨ws, foreign, rfl⟩⟩
  · intro failure failed
    obtain ⟨ws, foreign, rfl⟩ := column_eq_error_iff.mp failed
    cases foreign ▸ means_parse α f with
    | foreign _ lists => exact ⟨ws, lists, rfl, rfl⟩

end OrderFilters

end OrderDesk
