import DeviceTrust.Verification.Emoji
import Mathlib.Data.List.Nodup
import Std.Data.String.ToNat
/-! # Comparing short auth strings

Two people compare what their screens show. The emoji tell the indices that they stand for. A line of text
tells what was joined in it, since the separator starts with a character that no joined part has.
-/

namespace DeviceTrust

theorem eq_of_map_eq_map {α β : Type} {f : α → β} {as bs : List α}
    (hInj : ∀ a ∈ as, ∀ b ∈ bs, f a = f b → a = b) (h : as.map f = bs.map f) : as = bs := by
  induction as generalizing bs with
  | nil => exact (List.map_eq_nil_iff.mp h.symm).symm
  | cons a as ih =>
    obtain ⟨b, bs, rfl, hHead, hTail⟩ := List.map_eq_cons_iff.mp h.symm
    have hRest : as = bs :=
      ih (fun x hx y hy => hInj x (by simp [hx]) y (by simp [hy])) hTail.symm
    rw [hInj a (by simp) b (by simp) hHead.symm, hRest]

section Joining

variable {mark : Char} {sep word other : List Char} {words others : List (List Char)}

/-- Words that a separator with this first character can be told from. -/
def Markless (mark : Char) (words : List (List Char)) : Prop :=
  ∀ word ∈ words, word ≠ [] ∧ mark ∉ word

/-- What joining puts behind a word: the other words, each behind a separator. -/
def following (mark : Char) (sep : List Char) (words : List (List Char)) : List Char :=
  words.flatMap fun word => mark :: (sep ++ word)

theorem intercalate_cons_eq :
    (mark :: sep).intercalate (word :: words) = word ++ following mark sep words := by
  induction words generalizing word with
  | nil => simp [following]
  | cons next words ih => simp [List.intercalate_cons_cons, ih, following]

theorem takeWhile_append_following (hWord : mark ∉ word) :
    (word ++ following mark sep words).takeWhile (· != mark) = word := by
  have hAll : ∀ c ∈ word, (c != mark) = true := by
    intro c hc
    simpa using ne_of_mem_of_not_mem hc hWord
  have hStop : (following mark sep words).takeWhile (· != mark) = [] := by
    cases words <;> simp [following]
  rw [List.takeWhile_append_of_pos hAll, hStop, List.append_nil]

theorem append_following_inj (hWord : mark ∉ word) (hOther : mark ∉ other)
    (h : word ++ following mark sep words = other ++ following mark sep others) :
    word = other ∧ following mark sep words = following mark sep others := by
  have hFirst : (word ++ following mark sep words).takeWhile (· != mark) = word :=
    takeWhile_append_following hWord
  rw [h, takeWhile_append_following hOther] at hFirst
  obtain rfl := hFirst
  exact ⟨rfl, List.append_cancel_left h⟩

theorem following_inj (hWords : Markless mark words) (hOthers : Markless mark others)
    (h : following mark sep words = following mark sep others) : words = others := by
  -- Each word ends where the next separator starts, so the first words agree and what follows them does.
  induction words generalizing others with
  | nil => cases others with
    | nil => rfl
    | cons => simp [following] at h
  | cons word words ih => cases others with
    | nil => simp [following] at h
    | cons other others =>
      have hWord := List.forall_mem_cons.mp hWords
      have hOther := List.forall_mem_cons.mp hOthers
      have hBehind : word ++ following mark sep words = other ++ following mark sep others := by
        simpa [following] using h
      obtain ⟨rfl, hRest⟩ := append_following_inj hWord.1.2 hOther.1.2 hBehind
      rw [ih hWord.2 hOther.2 hRest]

theorem intercalate_cons_ne_nil (hWords : Markless mark (word :: words)) :
    (mark :: sep).intercalate (word :: words) ≠ [] := by
  have hWord := List.forall_mem_cons.mp hWords
  simp [intercalate_cons_eq, hWord.1.1]

/-- No words at all are told from a single one since no word is empty. -/
theorem intercalate_inj (hWords : Markless mark words) (hOthers : Markless mark others)
    (h : (mark :: sep).intercalate words = (mark :: sep).intercalate others) : words = others := by
  cases words with
  | nil => cases others with
    | nil => rfl
    | cons => exact absurd h.symm (intercalate_cons_ne_nil hOthers)
  | cons word words => cases others with
    | nil => exact absurd h (intercalate_cons_ne_nil hWords)
    | cons other others =>
      have hBehind : following mark sep (word :: words) = following mark sep (other :: others) := by
        simpa [following, intercalate_cons_eq] using h
      exact following_inj hWords hOthers hBehind

theorem not_mem_intercalate {c : Char} (hSep : c ∉ mark :: sep)
    (hWords : ∀ word ∈ words, c ∉ word) : c ∉ (mark :: sep).intercalate words := by
  cases words with
  | nil => simp
  | cons word words =>
    have hWord := List.forall_mem_cons.mp hWords
    simp only [List.mem_cons, not_or] at hSep
    simpa [intercalate_cons_eq, following, hSep, hWord.1] using hWord.2

end Joining

theorem markless_repr (decimals : List Nat) :
    Markless ' ' ((decimals.map Nat.repr).map String.toList) := by
  simp only [Markless, List.map_map, List.forall_mem_map, Function.comp, Nat.toList_repr]
  intro n _
  refine ⟨Nat.toDigits_ne_nil, fun hSpace => ?_⟩
  simpa using Nat.isDigit_of_mem_toDigits (by decide) (by decide) hSpace

theorem decimalText_inj {decimals others : List Nat} (h : decimalText decimals = decimalText others) :
    decimals = others := by
  have hLists := congrArg String.toList h
  simp only [decimalText, String.toList_intercalate] at hLists
  have hTexts := intercalate_inj (markless_repr decimals) (markless_repr others) hLists
  simp only [List.map_map] at hTexts
  refine eq_of_map_eq_map (fun a _ b _ hText => ?_) hTexts
  exact Nat.repr_inj.mp (String.toList_inj.mp hText)

namespace Emoji

variable {index : Nat} {indices others : List Nat} {emoji shown : List Emoji}

theorem isSome_ofIndex?_iff : (ofIndex? index).isSome ↔ index < 64 := by
  simp [ofIndex?, length_table]

def firstCode (text : String) : Nat := (text.toList.headD ' ').toNat

theorem nodup_symbols : (table.map symbol).Nodup := by
  -- The symbols differ in their first code points, which are compared much faster than texts.
  have hFirst : (table.map (firstCode ∘ symbol)).Nodup := by decide +kernel
  rw [← List.map_map] at hFirst
  exact hFirst.of_map

theorem ofIndex?_inj {other : Nat} (hIndex : index < 64) (h : ofIndex? index = ofIndex? other) :
    index = other :=
  (List.getElem?_inj (length_table ▸ hIndex) (List.Nodup.of_map symbol nodup_symbols)).mp h

theorem map_some_ofIndices (hIndices : ∀ index ∈ indices, index < 64) :
    (ofIndices indices).map some = indices.map ofIndex? := by
  have hSome : ∀ found ∈ indices.map ofIndex?, found.isSome = true :=
    List.forall_mem_map.mpr fun index hIndex => isSome_ofIndex?_iff.mpr (hIndices index hIndex)
  rw [ofIndices, List.map_filterMap_some_eq_filter_map_isSome, List.filter_eq_self.mpr hSome]

theorem ofIndices_inj (hIndices : ∀ index ∈ indices, index < 64)
    (hOthers : ∀ index ∈ others, index < 64) (h : ofIndices indices = ofIndices others) :
    indices = others := by
  have hFound : indices.map ofIndex? = others.map ofIndex? := by
    rw [← map_some_ofIndices hIndices, h, map_some_ofIndices hOthers]
  exact eq_of_map_eq_map (fun index hIndex _ _ => ofIndex?_inj (hIndices index hIndex)) hFound

theorem ofIndices_filter : ofIndices (indices.filter (· < 64)) = ofIndices indices := by
  rw [ofIndices, List.filterMap_filter]
  refine List.filterMap_congr fun index _ => ?_
  by_cases hIndex : index < 64
  · simp [hIndex]
  · have hNone : ofIndex? index = none := by simpa [← isSome_ofIndex?_iff] using hIndex
    simp [hIndex, hNone]

theorem symbol_toList : ∀ emoji ∈ table,
    emoji.symbol.toList ≠ [] ∧ ' ' ∉ emoji.symbol.toList ∧ '\n' ∉ emoji.symbol.toList := by
  decide +kernel

def symbols (emoji : List Emoji) : List (List Char) := emoji.map fun e => e.symbol.toList

theorem toList_format : (format emoji).toList = ['\n'].intercalate
    [[' ', ' '].intercalate (symbols emoji),
      [' ', '|', ' '].intercalate (emoji.map fun e => e.description.toList)] := by
  simp [format, symbols, Function.comp_def]

theorem markless_symbols (hEmoji : ∀ e ∈ emoji, e ∈ table) : Markless ' ' (symbols emoji) :=
  List.forall_mem_map.mpr fun e he =>
    have hSymbol := symbol_toList e (hEmoji e he)
    ⟨hSymbol.1, hSymbol.2.1⟩

theorem newline_not_mem_symbols (hEmoji : ∀ e ∈ emoji, e ∈ table) :
    '\n' ∉ [' ', ' '].intercalate (symbols emoji) :=
  not_mem_intercalate (by decide)
    (List.forall_mem_map.mpr fun e he => (symbol_toList e (hEmoji e he)).2.2)

theorem format_inj (hEmoji : ∀ e ∈ emoji, e ∈ table) (hShown : ∀ e ∈ shown, e ∈ table)
    (h : format emoji = format shown) : emoji = shown := by
  -- The symbols alone tell the emoji, so the line of descriptions is not looked at.
  have hLines := congrArg String.toList h
  rw [toList_format, toList_format, intercalate_cons_eq, intercalate_cons_eq] at hLines
  obtain ⟨hLine, -⟩ :=
    append_following_inj (newline_not_mem_symbols hEmoji) (newline_not_mem_symbols hShown) hLines
  have hSymbols := intercalate_inj (markless_symbols hEmoji) (markless_symbols hShown) hLine
  refine eq_of_map_eq_map (fun a ha b hb hSymbol => ?_) hSymbols
  exact List.inj_on_of_nodup_map nodup_symbols (hEmoji a ha) (hShown b hb)
    (String.toList_inj.mp hSymbol)

theorem mem_table_of_mem_ofIndices {e : Emoji} (h : e ∈ ofIndices indices) : e ∈ table := by
  obtain ⟨index, -, hFound⟩ := List.mem_filterMap.mp h
  exact List.mem_of_getElem? hFound

theorem format_ofIndices_eq_iff : format (ofIndices indices) = format (ofIndices others) ↔
    indices.filter (· < 64) = others.filter (· < 64) := by
  have hBelow (indices : List Nat) : ∀ index ∈ indices.filter (· < 64), index < 64 := by simp
  constructor
  · intro h
    have hEmoji :=
      format_inj (fun _ => mem_table_of_mem_ofIndices) (fun _ => mem_table_of_mem_ofIndices) h
    have hTable := ofIndices_filter.trans (hEmoji.trans ofIndices_filter.symm)
    exact ofIndices_inj (hBelow indices) (hBelow others) hTable
  · intro h
    rw [← ofIndices_filter, h, ofIndices_filter]

end Emoji

open Emoji in
/-- The emoji tell their indices, the line of decimals its numbers, and the lines of emoji the emoji. An
index outside the table shows nothing, so what is shown for any indices tells those of the table. -/
theorem shown_strings_tell_apart :
    (∀ indices others : List Nat,
      (∀ index ∈ indices, index < 64) → (∀ index ∈ others, index < 64) →
      (ofIndices indices = ofIndices others ↔ indices = others)) ∧
    (∀ decimals others, decimalText decimals = decimalText others ↔ decimals = others) ∧
    (∀ emoji shown, (∀ e ∈ emoji, e ∈ table) → (∀ e ∈ shown, e ∈ table) →
      (format emoji = format shown ↔ emoji = shown)) ∧
    (∀ indices, ofIndices indices = ofIndices (indices.filter (· < 64))) ∧
    (∀ indices others, ofIndices (indices ++ others) = ofIndices indices ++ ofIndices others) ∧
    ∀ indices others, format (ofIndices indices) = format (ofIndices others) ↔
      indices.filter (· < 64) = others.filter (· < 64) := by
  refine ⟨?_, ?_, ?_, fun _ => ofIndices_filter.symm, fun _ _ => List.filterMap_append,
    fun _ _ => format_ofIndices_eq_iff⟩
  · intro indices others hIndices hOthers
    exact ⟨ofIndices_inj hIndices hOthers, fun h => h ▸ rfl⟩
  · intro decimals others
    exact ⟨decimalText_inj, fun h => h ▸ rfl⟩
  · intro emoji shown hEmoji hShown
    exact ⟨format_inj hEmoji hShown, fun h => h ▸ rfl⟩

open Emoji in
/-- A thumb, a light bulb and a cloud, whose descriptions and symbols have more than one part. -/
theorem swapped_emoji_look_different :
    (∀ index ∈ [36, 41, 21], index < 64) ∧ (∀ e ∈ ofIndices [36, 41, 21], e ∈ table) ∧
      ofIndices [36, 41, 21] ≠ ofIndices [41, 36, 21] ∧
      format (ofIndices [36, 41, 21]) ≠ format (ofIndices [41, 36, 21]) := by
  obtain ⟨hIndices, -, hFormat, -⟩ := shown_strings_tell_apart
  have hTable : ∀ e ∈ ofIndices [36, 41, 21], e ∈ table := fun _ => mem_table_of_mem_ofIndices
  have hDiffer : ofIndices [36, 41, 21] ≠ ofIndices [41, 36, 21] := by
    rw [ne_eq, hIndices _ _ (by decide) (by decide)]
    decide
  refine ⟨by decide, hTable, hDiffer, ?_⟩
  rw [ne_eq, hFormat _ _ hTable fun _ => mem_table_of_mem_ofIndices]
  exact hDiffer

end DeviceTrust
