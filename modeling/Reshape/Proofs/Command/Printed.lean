import Reshape.Command.Run
import Reshape.Proofs.Json.Spacing
import Reshape.Proofs.Yaml.Document

namespace Reshape.Command

open Yaml (Blank trimmed exists_fill)

section Documents

variable {left right : View}

theorem printed_eq_iff {left right : String} :
    printed left = printed right ↔ trimmed left.toList = trimmed right.toList := by
  rw [printed, printed, String.append_left_inj]
  exact String.ofList_inj

theorem isBlank_of_blank {feeds : List Char} (blank : Blank feeds) :
    ∀ character ∈ feeds, Json.isBlank character := by
  intro character member
  rw [blank character member]
  rfl

theorem printed_text_iff (leftFree : left.RecordFree) (rightFree : right.RecordFree) :
    printed left.text = printed right.text ↔ left = right := by
  refine ⟨fun same => ?_, fun same => same ▸ rfl⟩
  obtain ⟨leftFeeds, rightFeeds, leftBlank, rightBlank, filled⟩ :=
    exists_fill (printed_eq_iff.mp same)
  exact Json.eq_of_text_eq leftFree rightFree (isBlank_of_blank leftBlank)
    (isBlank_of_blank rightBlank) filled

theorem printed_prettyText_iff (leftFree : left.RecordFree) (rightFree : right.RecordFree) :
    printed left.prettyText = printed right.prettyText ↔ left = right := by
  refine ⟨fun same => ?_, fun same => same ▸ rfl⟩
  obtain ⟨leftFeeds, rightFeeds, leftBlank, rightBlank, filled⟩ :=
    exists_fill (printed_eq_iff.mp same)
  exact Json.eq_of_prettyText_eq leftFree rightFree (isBlank_of_blank leftBlank)
    (isBlank_of_blank rightBlank) filled

theorem printed_yamlText_iff (leftFree : left.RecordFree) (rightFree : right.RecordFree) :
    printed left.yamlText = printed right.yamlText ↔ left = right ∨ left.EndAlike right := by
  rw [printed_eq_iff, View.yamlText, View.yamlText, String.toList_ofList, String.toList_ofList]
  exact View.trimmed_yamlChars_iff leftFree rightFree

theorem printed_document_iff (format : OutputFormat) (leftFree : left.RecordFree)
    (rightFree : right.RecordFree) :
    printed (format.document left) = printed (format.document right) ↔
      left = right ∨ (format = .yaml ∧ left.EndAlike right) := by
  cases format with
  | json => exact (printed_text_iff leftFree rightFree).trans (by simp)
  | prettyJson => exact (printed_prettyText_iff leftFree rightFree).trans (by simp)
  | yaml => exact (printed_yamlText_iff leftFree rightFree).trans (by simp)

end Documents

/-- Two values without records are printed alike if and only if they are the same, or the format is
YAML and they differ in nothing but the line feeds at the end of their last string, of which both
keep more than one. -/
theorem document_eq_iff [Record.Accessors] {left right : Value} (session : Session)
    (leftFree : left.RecordFree) (rightFree : right.RecordFree) :
    session.document left = session.document right ↔
      left = right ∨ (session.format = .yaml ∧ left.view.EndAlike right.view) := by
  have views : left.view = right.view ↔ left = right :=
    ⟨Value.eq_of_view_eq leftFree rightFree, congrArg Value.view⟩
  rw [← views]
  exact printed_document_iff session.format (left.recordFree_view leftFree)
    (right.recordFree_view rightFree)

/-- A map whose only value ends with two line feeds, or with three: the line feeds are told apart in
JSON, and not in YAML. -/
theorem document_eq_iff_feeds :
    let session (format : OutputFormat) : Session := ⟨{ output := { format } }, false⟩
    let value (feeds : String) : Value := .map [("a", .string ("x" ++ feeds))]
    (session .prettyJson).document (value "\n\n") ≠ (session .prettyJson).document (value "\n\n\n") ∧
      (session .yaml).document (value "\n\n") = (session .yaml).document (value "\n\n\n") := by
  intro session value
  have free (feeds : String) : (value feeds).RecordFree := ⟨trivial, trivial⟩
  constructor
  · intro same
    rcases (document_eq_iff (session .prettyJson) (free _) (free _)).mp same with equal | ⟨yaml, _⟩
    · revert equal
      simp [value]
    · contradiction
  · refine (document_eq_iff (session .yaml) (free _) (free _)).mpr (.inr ⟨rfl, ?_⟩)
    exact .map [] "a" (.string ⟨by decide, by decide⟩ ⟨by decide, by decide⟩ (by decide))

/-- Strings that end with two line feeds and with three are printed alike in YAML. -/
theorem document_not_injective :
    ¬ ∀ (session : Session) (left right : Value), left.RecordFree → right.RecordFree →
      left ≠ right → session.document left ≠ session.document right := by
  intro injective
  refine injective ⟨{ output := { format := .yaml } }, false⟩ (.string "x\n\n")
    (.string "x\n\n\n") trivial trivial (by simp) ?_
  decide

end Reshape.Command
