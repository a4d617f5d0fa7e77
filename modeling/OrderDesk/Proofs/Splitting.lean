import Mathlib.Data.List.Find
import Mathlib.Data.List.Nodup
import Mathlib.Data.List.TakeDrop
import Mathlib.Data.List.TakeWhile
import OrderDesk.Proofs.Capitals

/-!
# How a symbol is split

A symbol is split twice on its way to a venue. The symbol of a request is split into the assets
that the catalogue is asked for. Then the symbols of the two coins that were found are put together
with a separator between them, and what comes out is split again and written as venues write it.
If the second split did not give back what the first one found, an order would go to another market
than the one that was meant.

The first split has to be complete: known quotes end in one another, so a symbol without a separator
may end in several of them, and each that leaves some base is a reading. The second has to be
stable: a separator alone decides, and what has been split and put together splits in the same
place. Both are in `Pair.splitting_is_complete_and_stable`.
-/

namespace OrderDesk

namespace Pair

variable {symbol : String} {p : Pair}

/-! ## Tokens -/

/-- A text with one spelling for all separators. -/
def unified (s : String) : String :=
  String.ofList (s.toList.map fun c => if isSeparator c then '/' else c)

/-- A token is the symbol in upper case, with one spelling for all separators. -/
theorem token_eq (s : String) : token s = (unified (Text.upper s)).toList := by
  rw [unified, String.toList_ofList, Text.toList_upper]
  rfl

/-- **A separator divides a token.** -/
theorem token_separated {separator : Char} (separates : isSeparator separator)
    (before after : String) :
    token (before ++ String.singleton separator ++ after) = token before ++ '/' :: token after := by
  have stays : Text.upperOf separator = [separator] := by
    simp only [isSeparator, Bool.or_eq_true, beq_iff_eq] at separates
    rcases separates with (rfl | rfl) | rfl <;> decide
  unfold token Text.upperChars
  rw [String.toList_append, String.toList_append, String.toList_singleton, List.flatMap_append,
    List.flatMap_append, List.flatMap_singleton, stays, List.map_append, List.map_append,
    List.map_singleton, if_pos separates, List.append_assoc, List.singleton_append]

/-- A token is in upper case. -/
theorem upperOf_of_mem_token {c : Char} (mem : c ∈ token symbol) : Text.upperOf c = [c] := by
  obtain ⟨x, among, rfl⟩ := List.mem_map.mp mem
  split
  · decide
  · obtain ⟨_, -, its⟩ := List.mem_flatMap.mp among
    exact Text.upperOf_of_mem_upperOf its

/-- **What is made of the characters of a token** is its own token. -/
theorem token_of_forall_mem {s : String} (within : ∀ c ∈ s.toList, c ∈ token symbol) :
    token s = s.toList := by
  have same : Text.upperChars s.toList = s.toList :=
    Text.upperChars_of_forall fun c mem => upperOf_of_mem_token (within c mem)
  rw [token, same]
  refine (List.map_congr_left fun c mem => ?_).trans (List.map_id _)
  obtain ⟨x, -, rfl⟩ := List.mem_map.mp (within c mem)
  split_ifs <;> rfl

/-- Texts that differ in letter case only have the same token. -/
theorem token_congr {s t : String} (same : Text.upper s = Text.upper t) : token s = token t := by
  rw [token_eq, token_eq, same]

/-- **A symbol has no separator.** -/
def IsWhole (symbol : String) : Prop := ∀ c ∈ symbol.toList, ¬ isSeparator c

/-- A symbol without a separator is its token, but for upper case. -/
theorem token_of_isWhole (whole : IsWhole symbol) :
    token symbol = (Text.upper symbol).toList ∧ '/' ∉ token symbol := by
  have none : ∀ x ∈ Text.upperChars symbol.toList, ¬ isSeparator x := by
    intro x among separator
    obtain ⟨c, mem, its⟩ := List.mem_flatMap.mp among
    exact whole c mem (Text.eq_of_isSeparator its separator ▸ separator)
  have same : token symbol = Text.upperChars symbol.toList := by
    refine (List.map_congr_left fun x among => ?_).trans (List.map_id _)
    exact if_neg (none x among)
  exact ⟨same.trans (Text.toList_upper symbol).symm, fun slash => none '/' (same ▸ slash) rfl⟩

/-! ## Symbols with a separator -/

/-- **A symbol is split at its first separator.** -/
structure SplitsAt (symbol before : String) (separator : Char) (after : String) : Prop where
  whole : symbol = before ++ String.singleton separator ++ after
  separates : isSeparator separator
  first : IsWhole before

/-- A symbol that has separators has a first one. -/
theorem exists_splitsAt (separated : ¬ IsWhole symbol) :
    ∃ before separator after, SplitsAt symbol before separator after := by
  have joined := List.takeWhile_append_dropWhile (p := (!isSeparator ·)) (l := symbol.toList)
  cases rest : symbol.toList.dropWhile (!isSeparator ·) with
  | nil =>
    refine absurd (fun c mem => ?_) separated
    simpa using List.dropWhile_eq_nil_iff.mp rest c mem
  | cons separator after =>
    refine ⟨.ofList (symbol.toList.takeWhile (!isSeparator ·)), separator, .ofList after, ?_, ?_,
      fun c mem => ?_⟩
    · refine String.toList_injective ?_
      rw [rest] at joined
      simpa using joined.symm
    · have stops := List.head_dropWhile_not (!isSeparator ·) (l := symbol.toList) (rest ▸ nofun)
      simpa only [rest, List.head_cons, Bool.not_eq_false'] using stops
    · rw [String.toList_ofList] at mem
      simpa using List.mem_takeWhile_imp mem

/-- **A token with a slash is read in one way**, at its first slash. -/
theorem readings_of_slash (split : token symbol = p.base.toList ++ '/' :: p.quote.toList)
    (first : '/' ∉ p.base.toList) : readings symbol = [p] := by
  have before : ∀ c ∈ p.base.toList, (c != '/') = true := fun c mem =>
    bne_iff_ne.mpr fun slash => first (slash ▸ mem)
  have parted : (token symbol).span (· != '/') = (p.base.toList, '/' :: p.quote.toList) := by
    rw [List.span_eq_takeWhile_dropWhile, split, List.takeWhile_append_of_pos before,
      List.dropWhile_append_of_pos before]
    simp
  unfold readings
  rw [parted]
  simp only [String.ofList_toList]

theorem token_of_splitsAt {before after : String} {separator : Char}
    (splits : SplitsAt symbol before separator after) :
    token symbol = (Text.upper before).toList ++ '/' :: (unified (Text.upper after)).toList := by
  rw [splits.whole, token_separated splits.separates, (token_of_isWhole splits.first).1,
    token_eq after]

/-- **A symbol with a separator is read in one way.** -/
theorem readings_of_splitsAt {before after : String} {separator : Char}
    (splits : SplitsAt symbol before separator after) :
    readings symbol = [⟨Text.upper before, unified (Text.upper after)⟩] := by
  obtain ⟨same, none⟩ := token_of_isWhole splits.first
  exact readings_of_slash (token_of_splitsAt splits) (same ▸ none)

/-! ## Symbols without a separator -/

/-- **A reading with a given quote**: it follows some base, and both together are the token. -/
theorem endingIn?_eq_some_iff {cs : List Char} {quote : String} :
    endingIn? cs quote = some p
      ↔ p.quote = quote ∧ p.base ≠ "" ∧ p.base.toList ++ p.quote.toList = cs := by
  simp only [endingIn?, Option.ite_none_right_eq_some, Option.some.injEq, Bool.and_eq_true,
    decide_eq_true_eq, beq_iff_eq]
  constructor
  · rintro ⟨⟨shorter, ends⟩, rfl⟩
    refine ⟨rfl, fun empty => ?_, ?_⟩
    · have none : cs.take (cs.length - quote.length) = [] := by
        simpa using congrArg String.toList empty
      have short := congrArg List.length none
      rw [List.length_take, List.length_nil] at short
      omega
    · rw [String.toList_ofList, ← ends, List.take_append_drop]
  · rintro ⟨rfl, nonempty, rfl⟩
    have some : p.base.toList.length ≠ 0 := by simpa using nonempty
    have whole : (p.base.toList ++ p.quote.toList).length
        = p.base.toList.length + p.quote.length := by
      rw [List.length_append, String.length_toList (s := p.quote)]
    rw [whole, Nat.add_sub_cancel, List.drop_left, List.take_left, String.ofList_toList]
    exact ⟨⟨Nat.lt_add_of_pos_left (Nat.pos_of_ne_zero some), rfl⟩, rfl⟩

/-- A symbol without a separator is read with each quote that can end it. -/
theorem readings_of_isWhole (whole : IsWhole symbol) :
    readings symbol = knownQuotes.filterMap (endingIn? (Text.upper symbol).toList) := by
  obtain ⟨same, none⟩ := token_of_isWhole whole
  have unparted : (token symbol).span (· != '/') = (token symbol, []) := by
    have all : ∀ c ∈ token symbol, (c != '/') = true := fun c mem =>
      bne_iff_ne.mpr fun slash => none (slash ▸ mem)
    rw [List.span_eq_takeWhile_dropWhile, List.takeWhile_eq_self_iff.mpr all,
      List.dropWhile_eq_nil_iff.mpr all]
  unfold readings
  rw [unparted, same]

/-- **The readings of a symbol without a separator** are all its divisions into a base, which is
not empty, and a known quote. -/
theorem mem_readings_iff (whole : IsWhole symbol) :
    p ∈ readings symbol
      ↔ p.quote ∈ knownQuotes ∧ p.base ≠ "" ∧ p.base ++ p.quote = Text.upper symbol := by
  rw [readings_of_isWhole whole, List.mem_filterMap]
  simp only [endingIn?_eq_some_iff, ← String.toList_append, String.toList_inj]
  constructor
  · rintro ⟨quote, known, rfl, parts⟩
    exact ⟨known, parts⟩
  · rintro ⟨known, parts⟩
    exact ⟨p.quote, known, rfl, parts⟩

/-- **Longer quotes come first.** -/
theorem readings_descending (symbol : String) :
    (readings symbol).Pairwise fun p q => q.quote.length ≤ p.quote.length := by
  unfold readings
  split
  next => exact List.pairwise_singleton _ _
  next whole _ =>
    refine (List.pairwise_map.mp knownQuotes_descending).filterMap _ ?_
    intro a b longer p first q second
    rwa [(endingIn?_eq_some_iff.mp first).1, (endingIn?_eq_some_iff.mp second).1]

/-- No reading comes twice. -/
theorem nodup_readings (symbol : String) : (readings symbol).Nodup := by
  by_cases whole : IsWhole symbol
  · rw [readings_of_isWhole whole]
    refine List.Nodup.filterMap (fun a b p first second => ?_)
      (by rw [knownQuotes_eq]; decide)
    rw [← (endingIn?_eq_some_iff.mp first).1, ← (endingIn?_eq_some_iff.mp second).1]
  · obtain ⟨before, separator, after, splits⟩ := exists_splitsAt whole
    rw [readings_of_splitsAt splits]
    exact List.nodup_singleton _

/-- **A symbol cannot be read** exactly when it has no separator and no known quote is a proper
suffix of it. -/
theorem readings_eq_nil_iff :
    readings symbol = [] ↔ IsWhole symbol ∧ ∀ quote ∈ knownQuotes,
      quote.toList <:+ (Text.upper symbol).toList → quote = Text.upper symbol := by
  constructor
  · intro unread
    have whole : IsWhole symbol := by
      by_contra separated
      obtain ⟨before, separator, after, splits⟩ := exists_splitsAt separated
      exact List.cons_ne_nil _ _ ((readings_of_splitsAt splits).symm.trans unread)
    refine ⟨whole, fun quote known ⟨base, ends⟩ => ?_⟩
    by_contra proper
    have read : ⟨.ofList base, quote⟩ ∈ readings symbol := by
      refine (mem_readings_iff whole).mpr ⟨known, fun empty => proper ?_, ?_⟩
      · have none : base = [] := by simpa using congrArg String.toList empty
        exact String.toList_injective (by rw [← ends, none, List.nil_append])
      · exact String.toList_injective (by rw [String.toList_append, String.toList_ofList, ends])
    exact List.not_mem_nil (unread ▸ read)
  · rintro ⟨whole, improper⟩
    refine List.eq_nil_iff_forall_not_mem.mpr fun p mem => ?_
    obtain ⟨known, nonempty, parts⟩ := (mem_readings_iff whole).mp mem
    have ends : p.quote.toList <:+ (Text.upper symbol).toList :=
      ⟨p.base.toList, by rw [← parts, String.toList_append]⟩
    rw [← improper p.quote known ends, ← String.toList_inj, String.toList_append,
      List.append_left_eq_self, String.toList_eq_nil_iff] at parts
    exact nonempty parts

/-! ## Reading what was written -/

/-- **Both parts of a pair are in upper case.** -/
structure IsCapital (p : Pair) : Prop where
  base : Text.upper p.base = p.base
  quote : Text.upper p.quote = p.quote

/-- The characters of a reading are those of the token. -/
theorem mem_token_of_mem_readings (mem : p ∈ readings symbol) {c : Char}
    (among : c ∈ p.base.toList ∨ c ∈ p.quote.toList) : c ∈ token symbol := by
  by_cases whole : IsWhole symbol
  · obtain ⟨-, -, parts⟩ := (mem_readings_iff whole).mp mem
    rwa [(token_of_isWhole whole).1, ← parts, String.toList_append, List.mem_append]
  · obtain ⟨before, separator, after, splits⟩ := exists_splitsAt whole
    rw [readings_of_splitsAt splits, List.mem_singleton] at mem
    rw [mem] at among
    rw [token_of_splitsAt splits, List.mem_append, List.mem_cons]
    exact among.imp_right .inr

/-- **Readings are in upper case.** -/
theorem isCapital_of_mem_readings (mem : p ∈ readings symbol) : p.IsCapital where
  base := Text.upper_of_forall fun _ among =>
    upperOf_of_mem_token (mem_token_of_mem_readings mem (.inl among))
  quote := Text.upper_of_forall fun _ among =>
    upperOf_of_mem_token (mem_token_of_mem_readings mem (.inr among))

/-- A base has no slash. -/
theorem slash_not_mem_base (mem : p ∈ readings symbol) : '/' ∉ p.base.toList := by
  by_cases whole : IsWhole symbol
  · obtain ⟨same, none⟩ := token_of_isWhole whole
    obtain ⟨-, -, parts⟩ := (mem_readings_iff whole).mp mem
    rw [same, ← parts, String.toList_append] at none
    exact fun slash => none (List.mem_append_left _ slash)
  · obtain ⟨before, separator, after, splits⟩ := exists_splitsAt whole
    obtain ⟨same, none⟩ := token_of_isWhole splits.first
    rw [readings_of_splitsAt splits, List.mem_singleton] at mem
    rw [mem]
    exact same ▸ none

/-- **The parts of a reading, in any letter case, are read as that reading**, with a separator
between them. -/
theorem readings_of_parts (mem : p ∈ readings symbol) {base quote : String}
    (first : Text.upper base = p.base) (second : Text.upper quote = p.quote) :
    readings (base ++ "/" ++ quote) = [p] := by
  have capital := isCapital_of_mem_readings mem
  refine readings_of_slash ?_ (slash_not_mem_base mem)
  rw [show "/" = String.singleton '/' from rfl, token_separated rfl,
    token_congr (first.trans capital.base.symm), token_congr (second.trans capital.quote.symm),
    token_of_forall_mem fun _ its => mem_token_of_mem_readings mem (.inl its),
    token_of_forall_mem fun _ its => mem_token_of_mem_readings mem (.inr its)]

/-- **A pair is read as itself.** -/
theorem readings_text (mem : p ∈ readings symbol) : readings p.text = [p] :=
  have capital := isCapital_of_mem_readings mem
  readings_of_parts mem capital.base capital.quote

/-! ## The reading that is taken -/

theorem ofSymbol_eq_ok_iff : ofSymbol symbol = .ok p ↔ (readings symbol).head? = some p := by
  unfold ofSymbol
  cases readings symbol <;> simp

theorem ofSymbol_of_singleton (read : readings symbol = [p]) : ofSymbol symbol = .ok p := by
  rw [ofSymbol, read]

theorem format_eq_ok_iff {r : String} :
    format symbol = .ok r ↔ ∃ p, ofSymbol symbol = .ok p ∧ p.text = r := by
  unfold format
  cases ofSymbol symbol <;> simp [Except.map]

/-- **A symbol cannot be written** exactly when it cannot be read. -/
theorem format_eq_error_iff {fault : Fault} :
    format symbol = .error fault ↔ readings symbol = [] ∧ .noQuote symbol = fault := by
  unfold format ofSymbol
  cases readings symbol <;> simp [Except.map]

/-- **Splitting is complete and stable.**

* A symbol without a separator is read in every way in which a base, which is not empty, and a known
  quote make it up, but for upper case; in each way once, and with longer quotes first.
* A symbol with a separator is read in one way: its base is what stands before the first separator
  and its quote what stands after it, in upper case and with one spelling for all separators.
* It cannot be written as venues write it exactly when it has no separator and no known quote is a
  proper suffix of it, and that is what the fault says.
* What is written is written again as it is, and split into the same pair. -/
theorem splitting_is_complete_and_stable (symbol : String) :
    (IsWhole symbol →
      (∀ p, p ∈ readings symbol
        ↔ p.quote ∈ knownQuotes ∧ p.base ≠ "" ∧ p.base ++ p.quote = Text.upper symbol)
      ∧ (readings symbol).Nodup
      ∧ (readings symbol).Pairwise fun p q => q.quote.length ≤ p.quote.length)
    ∧ (¬ IsWhole symbol → ∃ before separator after, SplitsAt symbol before separator after
      ∧ readings symbol = [⟨Text.upper before, unified (Text.upper after)⟩])
    ∧ ((∃ fault, format symbol = .error fault)
      ↔ IsWhole symbol ∧ ∀ quote ∈ knownQuotes,
        quote.toList <:+ (Text.upper symbol).toList → quote = Text.upper symbol)
    ∧ (∀ fault, format symbol = .error fault → fault = .noQuote symbol)
    ∧ ∀ r, format symbol = .ok r → format r = .ok r ∧ ofSymbol r = ofSymbol symbol := by
  refine ⟨fun whole => ⟨fun p => mem_readings_iff whole, nodup_readings symbol,
    readings_descending symbol⟩, fun separated => ?_, ?_, fun fault failed => ?_,
    fun r written => ?_⟩
  · obtain ⟨before, separator, after, splits⟩ := exists_splitsAt separated
    exact ⟨before, separator, after, splits, readings_of_splitsAt splits⟩
  · rw [← readings_eq_nil_iff]
    exact ⟨fun ⟨_, failed⟩ => (format_eq_error_iff.mp failed).1,
      fun unread => ⟨_, format_eq_error_iff.mpr ⟨unread, rfl⟩⟩⟩
  · exact (format_eq_error_iff.mp failed).2.symm
  · obtain ⟨p, read, rfl⟩ := format_eq_ok_iff.mp written
    have mem : p ∈ readings symbol := List.mem_of_head? (ofSymbol_eq_ok_iff.mp read)
    have again : ofSymbol p.text = .ok p := ofSymbol_of_singleton (readings_text mem)
    exact ⟨format_eq_ok_iff.mpr ⟨p, again, rfl⟩, again.trans read.symm⟩

example : readings "usdtusd" = [⟨"USD", "TUSD"⟩, ⟨"USDT", "USD"⟩] := by
  rw [readings, knownQuotes_eq]
  decide +kernel
example : readings "sol-eur_x" = [⟨"SOL", "EUR/X"⟩] := by decide +kernel

end Pair

end OrderDesk
