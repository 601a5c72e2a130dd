import Formulary.CommandLine.Program
import Formulary.Proofs.Location.Key

/-!
# Names of ranges — keys, and the files named after them

The key of a range is a text like any other: whoever gets it back reads the range that it was made
of, and a text that nobody made is read only when it has the same shape. The name of a file is the key
with another sign for the colon. That sign stands nowhere in a key, so nothing is lost.

* `map_replace_injective` — a sign that is not there yet can stand for another.
* `CommandLine.Program.fileName_injective` — ranges with one file name are one range.
* `SourceRange.key_spec` — keys and file names of ranges, and the texts that are read as ranges.
-/

namespace Formulary

/-- When one character stands for another that is replaced by it, texts without it stay apart. -/
theorem map_replace_injective {old new : Char} {a b : List Char} (ha : new ∉ a) (hb : new ∉ b)
    (h : (a.map fun c => if c = old then new else c) = b.map fun c => if c = old then new else c) :
    a = b := by
  -- putting the old character back undoes the replacement
  have hback : ∀ {cs : List Char}, new ∉ cs →
      (cs.map fun c => if c = old then new else c).map (fun c => if c = new then old else c) = cs := by
    intro cs hcs
    rw [List.map_map]
    refine (List.map_congr_left ?_).trans (List.map_id cs)
    intro c hc
    by_cases hold : c = old
    · simp [hold]
    · have hnew : c ≠ new := fun heq => hcs (heq ▸ hc)
      simp [hold, hnew]
  rw [← hback ha, h, hback hb]

/-- A key holds no underscore. -/
theorem SourceRange.underscore_not_mem_toChars (r : SourceRange) : '_' ∉ r.toChars := by
  have hcoordinate : ∀ n : UInt64, '_' ∉ Nat.toDigits 10 n.toNat :=
    fun n => (isCoordinate_toDigits n).not_mem rfl (by decide)
  simp [toChars, LineColumn.toChars, hcoordinate]

/-- Ranges with one file name are one range. -/
theorem CommandLine.Program.fileName_injective : Function.Injective fileName := by
  intro a b h
  have hchars := congrArg String.toList h
  rw [fileName, fileName, String.toList_append, String.toList_append] at hchars
  have hmap := List.append_cancel_right hchars
  rw [String.toList_ofList, String.toList_ofList] at hmap
  have htoChars := map_replace_injective a.underscore_not_mem_toChars b.underscore_not_mem_toChars hmap
  exact SourceRange.key_injective (congrArg String.ofList htoChars)

/-- **A range is what its key says.** The key of every range is read back as this range, so neither
    two keys nor two file names of different ranges are equal. A text is read as a range exactly when
    it consists of four coordinates `a:b-c:d`, each of them digits of a value below `2^64` behind a
    plus sign if there is one, and then as the range of these values; any other text is refused with
    an error that holds it. -/
theorem SourceRange.key_spec :
    (∀ r : SourceRange, parse r.key = .ok r) ∧
    Function.Injective key ∧ Function.Injective CommandLine.Program.fileName ∧
    (∀ (s : String) (r : SourceRange), parse s = .ok r ↔ Spells s r) ∧
    ∀ (s : String) (e : ParseError), parse s = .error e ↔ e = ⟨s⟩ ∧ ∀ r, ¬ Spells s r :=
  ⟨parse_key, fun _ _ => key_injective, CommandLine.Program.fileName_injective,
    fun _ _ => parse_eq_ok_iff, fun _ _ => parse_eq_error_iff⟩

/-- Signs and leading zeros are read, and a number of `2^64` is not. -/
example : SourceRange.parse "+1:002-3:18446744073709551615" = .ok ⟨⟨1, 2⟩, ⟨3, 18446744073709551615⟩⟩ ∧
    SourceRange.parse "1:2-3:18446744073709551616" = .error ⟨"1:2-3:18446744073709551616"⟩ := by
  decide +kernel

end Formulary
