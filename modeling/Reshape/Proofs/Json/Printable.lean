import Mathlib.Tactic.SplitIfs
import Reshape.Proofs.Path.Index
import Reshape.Value.View

namespace Reshape

/-- Every character is a space or stands behind it. -/
def Printable (text : List Char) : Prop := ∀ character ∈ text, 0x20 ≤ character.toNat

namespace Printable

variable {first second : List Char} {character : Char}

theorem nil : Printable [] := by simp [Printable]

theorem cons (visible : 0x20 ≤ character.toNat) (rest : Printable first) :
    Printable (character :: first) := List.forall_mem_cons.mpr ⟨visible, rest⟩

theorem append (left : Printable first) (right : Printable second) :
    Printable (first ++ second) := List.forall_mem_append.mpr ⟨left, right⟩

theorem of_subset (printable : Printable second) (subset : first ⊆ second) : Printable first :=
  fun character member => printable character (subset member)

theorem replicate (visible : 0x20 ≤ character.toNat) (count : Nat) :
    Printable (List.replicate count character) := by
  intro other member
  rw [List.eq_of_mem_replicate member]
  exact visible

theorem of_digits {digits : List Char} (decimal : ∀ digit ∈ digits, digit.isDigit) :
    Printable digits := by
  intro digit member
  have bounds := decimal digit member
  simp only [Char.isDigit, Bool.and_eq_true, decide_eq_true_eq] at bounds
  have lower : 48 ≤ digit.toNat := bounds.1
  omega

theorem toDigits (number : Nat) : Printable (Nat.toDigits 10 number) :=
  of_digits (isDigit_toDigits _)

theorem newline_not_mem (printable : Printable first) : '\n' ∉ first :=
  fun member => absurd (printable '\n' member) (by decide)

end Printable

namespace Binary64

theorem mem_of_mem_dropTrailingZeros {digits : List Char} {exponent : Int} {digit : Char}
    (member : digit ∈ (dropTrailingZeros digits exponent).1) : digit ∈ digits := by
  induction digits with
  | nil => simp [dropTrailingZeros] at member
  | cons first rest ih =>
      rw [dropTrailingZeros] at member
      split at member
      · split at member
        · contradiction
        · simp_all
      · rename_i kept raised later
        rw [later] at ih
        rcases List.mem_cons.mp member with same | inside
        · exact same ▸ List.mem_cons_self
        · exact List.mem_cons_of_mem first (ih inside)

theorem printable_layout {raisedMark : String} {digits : List Char}
    (mark : Printable raisedMark.toList) (decimal : Printable digits) (exponent : Int) :
    Printable (layout raisedMark digits exponent).toList := by
  have part (kept : List Char) (sub : kept ⊆ digits) := decimal.of_subset sub
  have zeros (count : Nat) : Printable (List.replicate count '0') := .replicate (by decide) count
  unfold layout
  dsimp only
  split
  · split
    · rw [String.toList_ofList]
      exact (decimal.append (zeros _)).append (.cons (by decide) (.cons (by decide) .nil))
    · split
      · rw [String.toList_ofList]
        exact (part _ (List.take_subset _ _)).append (.cons (by decide) (part _ (List.drop_subset _ _)))
      · rw [String.toList_ofList]
        exact .cons (by decide) (.cons (by decide) ((zeros _).append decimal))
  · rw [String.toList_append, String.toList_append, String.toList_ofList, toList_toString]
    refine (((part _ (List.take_subset _ _)).append ?_).append ?_).append (.toDigits _)
    · split
      · exact .cons (by decide) (part _ (List.drop_subset _ _))
      · exact .nil
    · split
      · simp [Printable]
      · exact mark

theorem printable_text (number : Binary64) : Printable number.text.toList := by
  have sign : Printable (if number.negative then "-" else "").toList := by
    split <;> simp [Printable]
  unfold text textWith
  dsimp only
  rw [apply_ite String.toList, String.toList_append, String.toList_append]
  split
  · exact sign.append (by simp [Printable])
  · refine sign.append (printable_layout (by simp [Printable]) ?_ _)
    exact (Printable.toDigits _).of_subset fun _ => mem_of_mem_dropTrailingZeros

end Binary64

theorem Number.printable_text (number : Number) : Printable number.text.toList := by
  cases number with
  | float value => exact value.printable_text
  | int value fits =>
      cases value with
      | ofNat number =>
          change Printable (toString number).toList
          rw [toList_toString]
          exact .toDigits number
      | negSucc number =>
          change Printable ("-" ++ toString (number + 1)).toList
          rw [String.toList_append, toList_toString]
          exact .append (by simp [Printable]) (.toDigits (number + 1))

namespace Json

theorem digitChar_visible : ∀ digit < 16, 0x20 ≤ (Nat.digitChar digit).toNat := by decide

theorem printable_escape (character : Char) : Printable (escape character) := by
  have short {letter : Char} (visible : 0x20 ≤ letter.toNat) : Printable ['\\', letter] :=
    .cons (by decide) (.cons visible .nil)
  unfold escape
  split_ifs with _ _ _ _ _ _ _ control
  iterate 7 exact short (by decide)
  · have upper := digitChar_visible (character.toNat / 16) (by omega)
    have lower := digitChar_visible (character.toNat % 16) (by omega)
    exact (short (by decide)).append (.cons (by decide) (.cons (by decide)
      (.cons upper (.cons lower .nil))))
  · exact .cons (Nat.le_of_not_lt control) .nil

theorem printable_quoted (text : String) : Printable (quoted text) := by
  refine (Printable.cons (by decide) ?_).append (.cons (by decide) .nil)
  intro character member
  obtain ⟨source, _, inside⟩ := List.mem_flatMap.mp member
  exact printable_escape source character inside

end Json

namespace View

mutual

theorem printable_chars : (view : View) → Printable view.chars
  | .null | .bool true | .bool false => by simp [chars, Printable]
  | .number value => value.printable_text
  | .string value => Json.printable_quoted value
  | .list items => .cons (by decide) ((printable_charsOfItems items).append (.cons (by decide) .nil))
  | .map entries | .record _ entries =>
      .cons (by decide) ((printable_charsOfEntries entries).append (.cons (by decide) .nil))

theorem printable_charsOfItems : (items : List View) → Printable (charsOfItems items)
  | [] => .nil
  | [item] => printable_chars item
  | item :: next :: rest =>
      (printable_chars item).append (.cons (by decide) (printable_charsOfItems (next :: rest)))

theorem printable_charsOfEntries : (entries : List (String × View)) →
    Printable (charsOfEntries entries)
  | [] => .nil
  | [(name, item)] => (Json.printable_quoted name).append (.cons (by decide) (printable_chars item))
  | (name, item) :: next :: rest =>
      ((Json.printable_quoted name).append (.cons (by decide) (printable_chars item))).append
        (.cons (by decide) (printable_charsOfEntries (next :: rest)))

end

end View

theorem Value.newline_not_mem_text [Record.Display] (value : Value) : '\n' ∉ value.text.toList := by
  rw [Value.text, View.text, String.toList_ofList]
  exact (View.printable_chars value.view).newline_not_mem

end Reshape
