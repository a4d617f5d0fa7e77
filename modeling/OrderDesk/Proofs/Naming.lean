import Mathlib.Data.List.Find
import Mathlib.Data.List.Induction
import Mathlib.Data.List.Nodup
import OrderDesk.Proofs.Single
import OrderDesk.Proofs.Splitting

/-!
# Which coins a symbol names

A symbol can be read in several ways, and the catalogue decides among them: the coins are those
of the first reading both of whose assets it has (`Reference.coins_are_first_covered`). The
catalogue is asked only once, for all assets of all readings together, and its answer is then
looked through from the end. What is proved is that neither shows: a reading is covered when the
catalogue has both its assets, and as long as no two coins share a symbol, it is of no importance
in which order they were added. The coins are then written as that reading again
(`Reference.format_of_coinsOfSymbol`).
-/

namespace OrderDesk

/-- **The parts of a reading of a symbol without separators** are the symbol, but for upper
case. -/
theorem Pair.append_of_mem_readings {symbol : String} {p : Pair} (mem : p ∈ readings symbol)
    (unseparated : ∀ c ∈ symbol.toList, ¬ isSeparator c) :
    p.base ++ p.quote = Text.upper symbol :=
  ((mem_readings_iff unseparated).mp mem).2.2

/-! ## The catalogue -/

namespace Coins

variable {coins : Coins} {symbol : String} {p : Pair}

/-- The catalogue has a coin with a symbol, in any letter case. -/
def Has (coins : Coins) (symbol : String) : Prop :=
  ∃ c ∈ coins.entries, Text.upper c.symbol = Text.upper symbol

/-- The catalogue has both coins of a pair. -/
def Covers (coins : Coins) (p : Pair) : Prop := coins.Has p.base ∧ coins.Has p.quote

theorem isSome_lastWithSymbol? (capital : Text.upper symbol = symbol) :
    (lastWithSymbol? coins.entries symbol).isSome ↔ coins.Has symbol := by
  simp only [lastWithSymbol?, List.find?_isSome, List.mem_reverse, beq_iff_eq, Has, capital]

theorem of_lastWithSymbol? {cs : List (Coin Float)} {c : Coin Float}
    (found : lastWithSymbol? cs symbol = some c) : c ∈ cs ∧ Text.upper c.symbol = symbol :=
  ⟨List.mem_reverse.mp (List.mem_of_find?_eq_some found), by simpa using List.find?_some found⟩

/-- **Asking for many symbols at once** is as good as asking for each of them. -/
theorem lastWithSymbol?_withSymbols {symbols : List String} (asked : symbol ∈ symbols)
    (capital : Text.upper symbol = symbol) :
    lastWithSymbol? (coins.withSymbols symbols) symbol = lastWithSymbol? coins.entries symbol := by
  unfold lastWithSymbol? withSymbols
  rw [← List.filter_reverse, List.find?_filter]
  refine List.find?_congr fun c _ => ?_
  rw [Bool.eq_iff_iff, decide_eq_true_eq, and_iff_right_iff_imp, beq_iff_eq]
  rintro rfl
  exact List.contains_iff_mem.mpr (List.mem_map.mpr ⟨_, asked, capital⟩)

theorem coverReading?_eq_some_iff {cs : List (Coin Float)} {base quote : Coin Float} :
    coverReading? cs p = some (base, quote)
      ↔ lastWithSymbol? cs p.base = some base ∧ lastWithSymbol? cs p.quote = some quote := by
  simp [coverReading?, Option.bind_eq_some_iff]

theorem coverReading?_eq_none_iff (capital : p.IsCapital) :
    coverReading? coins.entries p = none ↔ ¬ coins.Covers p := by
  rw [Covers, ← isSome_lastWithSymbol? capital.base, ← isSome_lastWithSymbol? capital.quote,
    coverReading?]
  cases lastWithSymbol? coins.entries p.base <;>
    cases lastWithSymbol? coins.entries p.quote <;> simp

/-- **Asking for the parts of several pairs at once** is as good as asking for each part. -/
theorem lastWithSymbol?_parts {ps : List Pair} (capital : ∀ p ∈ ps, p.IsCapital) (mem : p ∈ ps) :
    let found := coins.withSymbols (ps.flatMap fun p => [p.base, p.quote])
    lastWithSymbol? found p.base = lastWithSymbol? coins.entries p.base
      ∧ lastWithSymbol? found p.quote = lastWithSymbol? coins.entries p.quote := by
  have asked : ∀ part ∈ [p.base, p.quote], part ∈ ps.flatMap fun p => [p.base, p.quote] :=
    fun part its => List.mem_flatMap.mpr ⟨p, mem, its⟩
  exact ⟨lastWithSymbol?_withSymbols (asked _ (by simp)) (capital p mem).base,
    lastWithSymbol?_withSymbols (asked _ (by simp)) (capital p mem).quote⟩

/-- The first of several pairs that is covered. -/
theorem cover?_eq {ps : List Pair} (capital : ∀ p ∈ ps, p.IsCapital) :
    coins.cover? ps = ps.findSome? (coverReading? coins.entries) := by
  rw [cover?, ← List.head?_filterMap, ← List.head?_filterMap]
  refine congrArg _ (List.filterMap_congr fun p mem => ?_)
  rw [coverReading?, coverReading?, (lastWithSymbol?_parts capital mem).1,
    (lastWithSymbol?_parts capital mem).2]

/-! ### The order in which coins are added -/

/-- A coin with a new identifier is put last. -/
theorem put_of_not_mem {coin : Coin Float} {cs : List (Coin Float)}
    (new : coin.id ∉ cs.map (·.id)) : put coin cs = cs ++ [coin] := by
  induction cs with
  | nil => rfl
  | cons c rest ih =>
    rw [List.map_cons, List.mem_cons, not_or] at new
    rw [put, if_neg (by simpa using Ne.symm new.1), ih new.2]
    rfl

/-- A coin with an old identifier is put in the place of another. -/
theorem ids_put_of_mem {coin : Coin Float} {cs : List (Coin Float)}
    (old : coin.id ∈ cs.map (·.id)) : (put coin cs).map (·.id) = cs.map (·.id) := by
  induction cs with
  | nil => cases old
  | cons c rest ih =>
    by_cases same : c.id = coin.id
    · rw [put, if_pos (beq_iff_eq.mpr same), List.map_cons, List.map_cons, same]
    · rw [put, if_neg (by simpa using same), List.map_cons, List.map_cons,
        ih ((List.mem_cons.mp old).resolve_left (Ne.symm same))]

/-- **Identifiers are unique** in a catalogue. -/
theorem nodup_ids_ofList (cs : List (Coin Float)) : ((ofList cs).entries.map (·.id)).Nodup := by
  induction cs using List.reverseRecOn with
  | nil => exact List.nodup_nil
  | append_singleton cs coin ih =>
    rw [ofList, List.foldl_append, ← ofList]
    show ((put coin (ofList cs).entries).map (·.id)).Nodup
    by_cases old : coin.id ∈ (ofList cs).entries.map (·.id)
    · rwa [ids_put_of_mem old]
    · rw [put_of_not_mem old, List.map_append, List.map_singleton, ← List.concat_eq_append]
      exact ih.concat old

/-- Coins with distinct identifiers stand in the order in which they were added. -/
theorem entries_ofList {cs : List (Coin Float)} (distinct : (cs.map (·.id)).Nodup) :
    (ofList cs).entries = cs := by
  induction cs using List.reverseRecOn with
  | nil => rfl
  | append_singleton cs coin ih =>
    rw [List.map_append, List.map_singleton, ← List.concat_eq_append, List.nodup_concat] at distinct
    rw [ofList, List.foldl_append, ← ofList]
    show put coin (ofList cs).entries = _
    rw [ih distinct.2, put_of_not_mem distinct.1]

/-- **What is found does not depend on the order** when only one thing can be found. -/
theorem find?_eq_of_unique {α : Type} {t : α → Bool} {xs ys : List α} (same : ∀ a, a ∈ xs ↔ a ∈ ys)
    (unique : ∀ a ∈ xs, ∀ b ∈ xs, t a → t b → a = b) : xs.find? t = ys.find? t := by
  cases found : xs.find? t with
  | none =>
    refine (List.find?_eq_none.mpr fun a mem => ?_).symm
    exact List.find?_eq_none.mp found a ((same a).mpr mem)
  | some a =>
    have mem := List.mem_of_find?_eq_some found
    obtain ⟨b, found'⟩ := Option.isSome_iff_exists.mp
      (List.find?_isSome.mpr ⟨a, (same a).mp mem, List.find?_some found⟩)
    rw [found', unique a mem b ((same b).mpr (List.mem_of_find?_eq_some found'))
      (List.find?_some found) (List.find?_some found')]

end Coins

/-- A text that says something is not passed over. -/
theorem OrderRequest.given_iff {s : Option String} :
    given s ↔ ∃ text, s.filter (!·.isEmpty) = some text := by
  cases s <;> simp [given, Option.filter_eq_some_iff]

namespace Reference

variable {ref : Reference} {r : OrderRequest} {symbol : String}

/-- **The coins of a symbol, one reading after the other**: the catalogue as it is takes the place
of its answer to the one question for all assets. -/
theorem coinsOfSymbol_eq (ref : Reference) (symbol : String) :
    ref.coinsOfSymbol symbol = match Pair.readings symbol with
      | [] => .error (.refused (.unreadableSymbol symbol))
      | first :: rest =>
        match (first :: rest).findSome? (Coins.coverReading? ref.coins.entries) with
        | some pair => .ok pair
        | none =>
          let blamed :=
            if (Coins.lastWithSymbol? ref.coins.entries first.base).isNone then first.base
            else first.quote
          .error (.missing s!"Coin {blamed} not found") := by
  have capital : ∀ p ∈ Pair.readings symbol, p.IsCapital := fun _ => Pair.isCapital_of_mem_readings
  unfold coinsOfSymbol
  cases read : Pair.readings symbol with
  | nil => rfl
  | cons first rest =>
    rw [read] at capital
    cases found : (first :: rest).findSome? (Coins.coverReading? ref.coins.entries) with
    | none =>
      simp only [Coins.cover?_eq capital, found, blamed,
        (Coins.lastWithSymbol?_parts capital List.mem_cons_self).1]
    | some pair => simp only [Coins.cover?_eq capital, found]

/-- Coins that are not both given are those of the symbol. -/
theorem coinsOf_of_not_given
    (missing : ¬ (OrderRequest.given r.baseCoin ∧ OrderRequest.given r.quoteCoin)) :
    ref.coinsOf r = ref.coinsOfSymbol (r.symbol.getD "") := by
  unfold coinsOf
  split
  next base quote first second =>
    exact absurd ⟨OrderRequest.given_iff.mpr ⟨_, first⟩, OrderRequest.given_iff.mpr ⟨_, second⟩⟩
      missing
  next => rfl

/-- Coins that are both given are not those of the symbol. -/
theorem coinsOf_of_given (ref : Reference) (r : OrderRequest)
    (given : OrderRequest.given r.baseCoin ∧ OrderRequest.given r.quoteCoin) :
    ∃ base quote, r.baseCoin = some base ∧ r.quoteCoin = some quote
      ∧ ref.coinsOf r = (do return (← ref.coin base, ← ref.coin quote)) := by
  obtain ⟨base, first⟩ := OrderRequest.given_iff.mp given.1
  obtain ⟨quote, second⟩ := OrderRequest.given_iff.mp given.2
  refine ⟨base, quote, (Option.filter_eq_some_iff.mp first).1,
    (Option.filter_eq_some_iff.mp second).1, ?_⟩
  rw [coinsOf, first, second]

/-- The coins of a symbol, when there are any, are those of a reading. -/
theorem coinsOfSymbol_eq_ok_iff {pair : Coin Float × Coin Float} :
    ref.coinsOfSymbol symbol = .ok pair
      ↔ (Pair.readings symbol).findSome? (Coins.coverReading? ref.coins.entries) = some pair := by
  rw [coinsOfSymbol_eq]
  split
  next none => simp [none]
  next first rest read =>
    rw [read]
    split
    next found => simp [found]
    next none => simp [none]

/-- **A symbol has coins** exactly when one of its readings is covered. -/
theorem exists_coinsOfSymbol_iff :
    (∃ pair, ref.coinsOfSymbol symbol = .ok pair)
      ↔ ∃ p ∈ Pair.readings symbol, ref.coins.Covers p := by
  simp only [coinsOfSymbol_eq_ok_iff, ← Option.isSome_iff_exists, List.findSome?_isSome_iff]
  refine exists_congr fun p => and_congr_right fun mem => ?_
  rw [← not_iff_not, ← Coins.coverReading?_eq_none_iff (Pair.isCapital_of_mem_readings mem),
    Option.not_isSome_iff_eq_none]

/-- **The coins of a symbol are those of its first reading that is covered.** -/
theorem first_covered_of_coinsOfSymbol {base quote : Coin Float}
    (found : ref.coinsOfSymbol symbol = .ok (base, quote)) :
    base ∈ ref.coins.entries ∧ quote ∈ ref.coins.entries
      ∧ ∃ before p later, Pair.readings symbol = before ++ p :: later
        ∧ (∀ q ∈ before, ¬ ref.coins.Covers q)
        ∧ Text.upper base.symbol = p.base ∧ Text.upper quote.symbol = p.quote := by
  obtain ⟨before, p, later, split, covers, uncovered⟩ :=
    List.findSome?_eq_some_iff.mp (coinsOfSymbol_eq_ok_iff.mp found)
  obtain ⟨first, second⟩ := Coins.coverReading?_eq_some_iff.mp covers
  obtain ⟨base_mem, base_symbol⟩ := Coins.of_lastWithSymbol? first
  obtain ⟨quote_mem, quote_symbol⟩ := Coins.of_lastWithSymbol? second
  refine ⟨base_mem, quote_mem, before, p, later, split, fun q mem => ?_, base_symbol, quote_symbol⟩
  have read : q ∈ Pair.readings symbol := split ▸ List.mem_append_left _ mem
  exact (Coins.coverReading?_eq_none_iff (Pair.isCapital_of_mem_readings read)).mp (uncovered q mem)

/-- **The coins of a symbol are written as the reading that they were found for**, when their own
symbols are put together with a separator: an order goes to the market that was meant. -/
theorem format_of_coinsOfSymbol {base quote : Coin Float}
    (found : ref.coinsOfSymbol symbol = .ok (base, quote)) :
    ∃ p ∈ Pair.readings symbol, Pair.format (base.symbol ++ "/" ++ quote.symbol) = .ok p.text := by
  obtain ⟨-, -, before, p, later, split, -, first, second⟩ := first_covered_of_coinsOfSymbol found
  have mem : p ∈ Pair.readings symbol := split ▸ List.mem_append_right _ List.mem_cons_self
  have read := Pair.ofSymbol_of_singleton (Pair.readings_of_parts mem first second)
  exact ⟨p, mem, Pair.format_eq_ok_iff.mpr ⟨p, read, rfl⟩⟩

/-- **A symbol none of whose readings is covered** names a coin that is missing: the base of the
first reading, unless the catalogue has that, and then its quote. -/
theorem coinsOfSymbol_of_uncovered {first : Pair} {rest : List Pair}
    (read : Pair.readings symbol = first :: rest)
    (uncovered : ∀ p ∈ Pair.readings symbol, ¬ ref.coins.Covers p) :
    ∃ name, ref.coinsOfSymbol symbol = .error (.missing s!"Coin {name} not found")
      ∧ ¬ ref.coins.Has name
      ∧ (¬ ref.coins.Has first.base → name = first.base)
      ∧ (ref.coins.Has first.base → name = first.quote) := by
  have capital : ∀ p ∈ Pair.readings symbol, p.IsCapital := fun _ => Pair.isCapital_of_mem_readings
  rw [read] at uncovered capital
  have none : (first :: rest).findSome? (Coins.coverReading? ref.coins.entries) = none :=
    List.findSome?_eq_none_iff.mpr fun p mem =>
      (Coins.coverReading?_eq_none_iff (capital p mem)).mpr (uncovered p mem)
  have known : (Coins.lastWithSymbol? ref.coins.entries first.base).isSome
      ↔ ref.coins.Has first.base :=
    Coins.isSome_lastWithSymbol? (capital first List.mem_cons_self).base
  rw [coinsOfSymbol_eq, read]
  dsimp only
  rw [none]
  refine ⟨_, rfl, ?_⟩
  by_cases has : ref.coins.Has first.base
  · have found := known.mpr has
    rw [if_neg (by rw [Option.isNone_iff_eq_none, ← Option.not_isSome_iff_eq_none, not_not, found])]
    exact ⟨fun both => uncovered first List.mem_cons_self ⟨has, both⟩, absurd has, fun _ => rfl⟩
  · have lost := mt known.mp has
    rw [if_pos (Option.isNone_iff_eq_none.mpr (Option.not_isSome_iff_eq_none.mp lost))]
    exact ⟨has, fun _ => rfl, fun yes => absurd yes has⟩

/-- The coins of a symbol do not depend on more of the catalogue than which coin is found for a
symbol. -/
theorem coinsOfSymbol_congr {coins : Coins}
    (same : ∀ s,
      Coins.lastWithSymbol? ref.coins.entries s = Coins.lastWithSymbol? coins.entries s) :
    ref.coinsOfSymbol symbol = { ref with coins }.coinsOfSymbol symbol := by
  have covers : Coins.coverReading? ref.coins.entries = Coins.coverReading? coins.entries := by
    funext p
    rw [Coins.coverReading?, Coins.coverReading?, same, same]
  rw [coinsOfSymbol_eq, coinsOfSymbol_eq, covers]
  simp only [same]

/-- **The order of the coins is of no importance**, when identifiers and symbols are unique. -/
theorem coinsOf_congr (ref : Reference) {coins : Coins}
    (same : ∀ c, c ∈ ref.coins.entries ↔ c ∈ coins.entries)
    (ids : (ref.coins.entries.map (·.id)).Nodup)
    (symbols : (ref.coins.entries.map (Text.upper ·.symbol)).Nodup) :
    ref.coinsOf r = { ref with coins }.coinsOf r := by
  have bySymbol (s : String) :
      Coins.lastWithSymbol? ref.coins.entries s = Coins.lastWithSymbol? coins.entries s := by
    refine Coins.find?_eq_of_unique (fun c => by rw [List.mem_reverse, List.mem_reverse, same]) ?_
    intro a ha b hb first second
    exact List.inj_on_of_nodup_map symbols (List.mem_reverse.mp ha) (List.mem_reverse.mp hb)
      ((beq_iff_eq.mp first).trans (beq_iff_eq.mp second).symm)
  have byId (id : String) : ref.coin id = { ref with coins }.coin id := by
    have found : ref.coins.find? id = coins.find? id := by
      refine Coins.find?_eq_of_unique same fun a ha b hb first second => ?_
      exact List.inj_on_of_nodup_map ids ha hb
        ((beq_iff_eq.mp first).trans (beq_iff_eq.mp second).symm)
    rw [coin, coin, found]
  unfold coinsOf
  split
  · rw [byId, byId]
  · exact coinsOfSymbol_congr bySymbol

/-- **The coins of a request are those of the first reading that the catalogue covers.**

For a request with a symbol that does not give both coins,

* coins are found exactly when the catalogue covers a reading, and then they are coins of the
  catalogue whose symbols are the parts of the first such reading; the parts of a symbol without
  separators make up the symbol;
* when it covers none, the base of the first reading is missing, or its quote when the catalogue
  has the base;
* a symbol without a reading is refused;
* and longer quotes are tried first.

A request that gives both coins does not need its symbol. And as long as no two coins have one
symbol, in any letter case, catalogues with the same coins give the same answer. -/
theorem coins_are_first_covered (ref : Reference) (r : OrderRequest) :
    (∀ symbol, r.symbol = some symbol →
      ¬ (OrderRequest.given r.baseCoin ∧ OrderRequest.given r.quoteCoin) →
        ((∃ pair, ref.coinsOf r = .ok pair) ↔ ∃ p ∈ Pair.readings symbol, ref.coins.Covers p)
        ∧ (∀ base quote, ref.coinsOf r = .ok (base, quote) →
            base ∈ ref.coins.entries ∧ quote ∈ ref.coins.entries
            ∧ (∃ before p later, Pair.readings symbol = before ++ p :: later
              ∧ (∀ q ∈ before, ¬ ref.coins.Covers q)
              ∧ Text.upper base.symbol = p.base ∧ Text.upper quote.symbol = p.quote)
            ∧ ((∀ c ∈ symbol.toList, ¬ Pair.isSeparator c) →
              Text.upper base.symbol ++ Text.upper quote.symbol = Text.upper symbol))
        ∧ (∀ first rest, Pair.readings symbol = first :: rest →
            (∀ p ∈ Pair.readings symbol, ¬ ref.coins.Covers p) →
            ∃ name, ref.coinsOf r = .error (.missing s!"Coin {name} not found")
              ∧ ¬ ref.coins.Has name
              ∧ (¬ ref.coins.Has first.base → name = first.base)
              ∧ (ref.coins.Has first.base → name = first.quote))
        ∧ (Pair.readings symbol = [] → ref.coinsOf r = .error (.refused (.unreadableSymbol symbol)))
        ∧ (Pair.readings symbol).Pairwise fun p q => q.quote.length ≤ p.quote.length)
    ∧ (OrderRequest.given r.baseCoin ∧ OrderRequest.given r.quoteCoin →
        ∀ symbol, ref.coinsOf { r with symbol } = ref.coinsOf r)
    ∧ (∀ xs ys, (∀ c, c ∈ (Coins.ofList xs).entries ↔ c ∈ (Coins.ofList ys).entries) →
        ((Coins.ofList xs).entries.map (Text.upper ·.symbol)).Nodup →
        { ref with coins := Coins.ofList xs }.coinsOf r
          = { ref with coins := Coins.ofList ys }.coinsOf r)
    ∧ ∀ xs ys : List (Coin Float), xs.Perm ys → (xs.map (·.id)).Nodup →
        (xs.map (Text.upper ·.symbol)).Nodup →
        { ref with coins := Coins.ofList xs }.coinsOf r
          = { ref with coins := Coins.ofList ys }.coinsOf r := by
  refine ⟨fun symbol named missing => ?_, fun given symbol => ?_, fun xs ys same symbols => ?_,
    fun xs ys perm ids symbols => ?_⟩
  · rw [coinsOf_of_not_given missing, named, Option.getD_some]
    refine ⟨exists_coinsOfSymbol_iff, fun base quote found => ?_,
      fun first rest => coinsOfSymbol_of_uncovered, fun none => ?_,
      Pair.readings_descending symbol⟩
    · obtain ⟨base_mem, quote_mem, before, p, later, split, uncovered, base_symbol, quote_symbol⟩ :=
        first_covered_of_coinsOfSymbol found
      refine ⟨base_mem, quote_mem, ⟨before, p, later, split, uncovered, base_symbol, quote_symbol⟩,
        fun unseparated => ?_⟩
      rw [base_symbol, quote_symbol]
      refine Pair.append_of_mem_readings ?_ unseparated
      exact split ▸ List.mem_append_right _ List.mem_cons_self
    · rw [coinsOfSymbol_eq, none]
  · obtain ⟨base, quote, hbase, hquote, found⟩ := coinsOf_of_given ref r given
    obtain ⟨base', quote', hbase', hquote', found'⟩ :=
      coinsOf_of_given ref { r with symbol } given
    cases hbase.symm.trans hbase'
    cases hquote.symm.trans hquote'
    rw [found, found']
  · exact coinsOf_congr { ref with coins := .ofList xs } same
      (Coins.nodup_ids_ofList xs) symbols
  · have left := Coins.entries_ofList ids
    have right := Coins.entries_ofList ((perm.map (·.id)).nodup_iff.mp ids)
    refine coinsOf_congr { ref with coins := .ofList xs } (fun c => ?_)
      (Coins.nodup_ids_ofList xs) (left.symm ▸ symbols)
    rw [left, right, perm.mem_iff]

/-- A catalogue with two coins that are worth a dollar. -/
def twoDollars : Reference where
  coins := .ofList [⟨"usdt", "USDT", none⟩, ⟨"usd", "USD", none⟩]

/-- One coin at market, under a symbol that can be read in two ways. -/
def dollarInDollars : OrderRequest :=
  { Desk.oneCoin with baseCoin := none, quoteCoin := none, symbol := some "usdtusd" }

/-- The catalogue covers the second reading of the symbol and not the first. -/
theorem coins_are_first_covered_dollarInDollars :
    dollarInDollars.symbol = some "usdtusd"
    ∧ ¬ (OrderRequest.given dollarInDollars.baseCoin ∧ OrderRequest.given dollarInDollars.quoteCoin)
    ∧ Pair.readings "usdtusd" = [⟨"USD", "TUSD"⟩, ⟨"USDT", "USD"⟩]
    ∧ ∃ base quote, twoDollars.coinsOf dollarInDollars = .ok (base, quote)
      ∧ Text.upper base.symbol = "USDT" ∧ Text.upper quote.symbol = "USD" := by
  have missing : ¬ (OrderRequest.given dollarInDollars.baseCoin
      ∧ OrderRequest.given dollarInDollars.quoteCoin) := by decide
  have readings : Pair.readings "usdtusd" = [⟨"USD", "TUSD"⟩, ⟨"USDT", "USD"⟩] := by
    rw [Pair.readings, Pair.knownQuotes_eq]
    decide +kernel
  have entries : twoDollars.coins.entries = [⟨"usdt", "USDT", none⟩, ⟨"usd", "USD", none⟩] := rfl
  have covered : twoDollars.coins.Covers ⟨"USDT", "USD"⟩ :=
    ⟨⟨⟨"usdt", "USDT", none⟩, entries ▸ List.mem_cons_self .., rfl⟩,
      ⟨"usd", "USD", none⟩, entries ▸ List.mem_cons_of_mem _ (List.mem_cons_self ..), rfl⟩
  have noTusd : ∀ c ∈ twoDollars.coins.entries, Text.upper c.symbol ≠ "TUSD" := by
    rw [entries]
    simp only [List.mem_cons, List.not_mem_nil, or_false, forall_eq_or_imp, forall_eq]
    decide +kernel
  obtain ⟨found_iff, parts, -⟩ :=
    (coins_are_first_covered twoDollars dollarInDollars).1 "usdtusd" rfl missing
  rw [readings] at found_iff parts
  obtain ⟨⟨base, quote⟩, found⟩ :=
    found_iff.mpr ⟨_, List.mem_cons_of_mem _ (List.mem_singleton.mpr rfl), covered⟩
  obtain ⟨-, quote_mem, ⟨before, p, later, split, -, base_symbol, quote_symbol⟩, -⟩ :=
    parts base quote found
  refine ⟨rfl, missing, readings, base, quote, found, ?_⟩
  -- the reading that names the coins is not the first, as there is no coin of its quote
  match before with
  | [] =>
    obtain ⟨rfl, -⟩ := List.cons.inj split
    exact absurd quote_symbol (noTusd quote quote_mem)
  | [_] =>
    obtain ⟨rfl, -⟩ := List.cons.inj (List.cons.inj split).2
    exact ⟨base_symbol, quote_symbol⟩
  | _ :: _ :: _ => cases (List.append_eq_nil_iff.mp (List.cons.inj (List.cons.inj split).2).2.symm).2

end Reference

end OrderDesk
