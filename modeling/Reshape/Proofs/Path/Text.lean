import Reshape.Path.Syntax
import Reshape.Proofs.Text.Split

namespace Reshape

theorem Token.text_ofSegment (segment : String) : (ofSegment segment).text = segment := by
  unfold ofSegment
  split
  · simp_all [text]
  · split
    · simp_all [text]
    · split
      · simp_all [text]
      · rfl

theorem Token.ofSegment_text {token : Token}
    (literal : ∀ name, token = .key name → name ∉ ["*", ">", "|"]) :
    ofSegment token.text = token := by
  cases token with
  | wildcard | flatten | cancel => rfl
  | key name =>
      have spelled := literal name rfl
      simp only [List.mem_cons, List.not_mem_nil, or_false, not_or] at spelled
      simp [ofSegment, text, spelled]

namespace Delimiter

variable {delimiter : Delimiter} {character : Char} {tokens : List Token}

theorem split_of_ne_empty {path : String} (nonempty : path ≠ "") :
    delimiter.split path = (Text.split delimiter.text path).map Token.ofSegment := by
  rw [split, beq_eq_false_iff_ne.mpr nonempty]
  rfl

theorem join_split (delimiter : Delimiter) (path : String) :
    delimiter.join (delimiter.split path) = path := by
  by_cases empty : path = ""
  · subst empty
    rfl
  · have spelled : Token.text ∘ Token.ofSegment = id := funext Token.text_ofSegment
    rw [split_of_ne_empty empty, join, List.map_map, spelled, List.map_id,
      Text.join_split delimiter.nonempty]

theorem split_append (single : delimiter.text.toList = [character]) {first second : String}
    (firstNonempty : first ≠ "") (secondNonempty : second ≠ "") :
    delimiter.split (first ++ delimiter.text ++ second) =
      delimiter.split first ++ delimiter.split second := by
  have nonempty : first ++ delimiter.text ++ second ≠ "" := by simp [firstNonempty]
  rw [split_of_ne_empty nonempty, split_of_ne_empty firstNonempty,
    split_of_ne_empty secondNonempty, Text.split_append single, List.map_append]

theorem split_join (single : delimiter.text.toList = [character]) (visible : tokens ≠ [.key ""])
    (absent : ∀ token ∈ tokens, character ∉ token.text.toList)
    (literal : ∀ name, .key name ∈ tokens → name ∉ ["*", ">", "|"]) :
    delimiter.split (delimiter.join tokens) = tokens := by
  by_cases empty : tokens = []
  · subst empty
    rfl
  · have parts : tokens.map Token.text ≠ [] := by simpa using empty
    have undelimited : ∀ part ∈ tokens.map Token.text, character ∉ part.toList :=
      List.forall_mem_map.mpr absent
    have read : (tokens.map Token.text).map Token.ofSegment = tokens := by
      rw [List.map_map, List.map_congr_left, List.map_id]
      exact fun token member => Token.ofSegment_text fun name same => literal name (same ▸ member)
    have spelled : tokens.map Token.text ≠ [""] := by
      intro blank
      rw [blank] at read
      exact visible read.symm
    have nonempty : delimiter.join tokens ≠ "" :=
      Text.join_ne_empty single parts undelimited spelled
    rw [split_of_ne_empty nonempty, join, Text.split_join single parts undelimited, read]

end Delimiter

/-- Reading paths and writing them down are inverse, as far as tokens can be told apart in
the text that they spell. -/
theorem PathForm.parse_text_inverse [Record.Display] (delimiter : Delimiter) :
    (∀ path, ∃ tokens, parse delimiter (.text path) = .ok tokens ∧
      delimiter.join tokens = path) ∧
    (∀ character tokens, delimiter.text.toList = [character] → tokens ≠ [.key ""] →
      (∀ token ∈ tokens, character ∉ token.text.toList) →
      (∀ name, .key name ∈ tokens → name ∉ ["*", ">", "|"]) →
      parse delimiter (.text (delimiter.join tokens)) = .ok tokens) :=
  ⟨fun path => ⟨delimiter.split path, rfl, delimiter.join_split path⟩,
    fun _ _ single visible absent literal =>
      congrArg Except.ok (Delimiter.split_join single visible absent literal)⟩

/-- Empty keys stay apart, and a dot belongs to its key. -/
theorem PathForm.parse_text_inverse_slash :
    let slash : Delimiter := { text := "/" }
    let tokens : List Token := [.key "", .wildcard, .key "a.b", .key "", .cancel]
    slash.text.toList = ['/'] ∧ tokens ≠ [.key ""] ∧
      (∀ token ∈ tokens, '/' ∉ token.text.toList) ∧
      (∀ name, .key name ∈ tokens → name ∉ ["*", ">", "|"]) ∧
      slash.join tokens = "/*/a.b//|" ∧
      parse slash (.text (slash.join tokens)) = .ok tokens := by
  intro slash tokens
  have absent : ∀ token ∈ tokens, '/' ∉ token.text.toList := by decide
  have literal : ∀ name, .key name ∈ tokens → name ∉ ["*", ">", "|"] := by
    intro name member
    have named : name = "" ∨ name = "a.b" ∨ name = "" := by simpa [tokens] using member
    rcases named with rfl | rfl | rfl <;> decide
  have single : slash.text.toList = ['/'] := by decide
  exact ⟨single, by decide, absent, literal, by decide,
    (parse_text_inverse slash).2 '/' tokens single (by decide) absent literal⟩

end Reshape
