import Reshape.Proofs.Yaml.Quoted
/-!
Blocks of YAML. A block ends where a line is indented less than its own lines. Where nothing but
line feeds follows, its text is known but for the line feeds at its own end; and of these the sign
of the block still says whether there are none, one or more.
-/

namespace Reshape.Yaml

section Trimmed

variable {text left right feeds : List Char}

def Blank (text : List Char) : Prop := ∀ character ∈ text, character = '\n'

theorem blank_feed : Blank ['\n'] := fun _ => List.mem_singleton.mp

def trimmed (text : List Char) : List Char := (text.reverse.dropWhile (· == '\n')).reverse

theorem trimmed_congr (front : List Char) (same : trimmed left = trimmed right) :
    trimmed (front ++ left) = trimmed (front ++ right) := by
  have reversed := List.reverse_inj.mp same
  simp only [trimmed, List.reverse_append, List.dropWhile_append, reversed]

theorem trimmed_of_blank (blank : Blank text) : trimmed text = [] := by
  have each : ∀ character ∈ text.reverse, (character == '\n') = true := fun character member =>
    beq_iff_eq.mpr (blank character (List.mem_reverse.mp member))
  rw [trimmed, ← List.append_nil text.reverse, List.dropWhile_append_of_pos each]
  rfl

theorem trimmed_append_blank (blank : Blank feeds) : trimmed (text ++ feeds) = trimmed text := by
  have nothing : trimmed feeds = trimmed [] := trimmed_of_blank blank
  have same := trimmed_congr text nothing
  rwa [List.append_nil] at same

theorem trimmed_append_singleton {last : Char} (different : last ≠ '\n') :
    trimmed (text ++ [last]) = text ++ [last] := by
  simp [trimmed, different]

theorem exists_feeds (text : List Char) : ∃ feeds, Blank feeds ∧ text = trimmed text ++ feeds := by
  refine ⟨(text.reverse.takeWhile (· == '\n')).reverse, ?_, ?_⟩
  · intro character member
    exact eq_of_beq (List.all_eq_true.mp List.all_takeWhile character (List.mem_reverse.mp member))
  · rw [trimmed, ← List.reverse_append, List.takeWhile_append_dropWhile, List.reverse_reverse]

theorem append_comm_of_blank (leftBlank : Blank left) (rightBlank : Blank right) :
    left ++ right = right ++ left := by
  rw [List.eq_replicate_of_mem leftBlank, List.eq_replicate_of_mem rightBlank,
    List.replicate_append_replicate, List.replicate_append_replicate, Nat.add_comm]

theorem exists_fill (same : trimmed left = trimmed right) :
    ∃ leftFeeds rightFeeds, Blank leftFeeds ∧ Blank rightFeeds ∧
      left ++ leftFeeds = right ++ rightFeeds := by
  obtain ⟨feeds, blank, spelled⟩ := exists_feeds left
  obtain ⟨otherFeeds, otherBlank, otherSpelled⟩ := exists_feeds right
  refine ⟨otherFeeds, feeds, otherBlank, blank, ?_⟩
  calc left ++ otherFeeds = trimmed left ++ (feeds ++ otherFeeds) := by
        rw [← List.append_assoc, ← spelled]
    _ = trimmed right ++ (otherFeeds ++ feeds) := by
        rw [same, append_comm_of_blank blank otherBlank]
    _ = right ++ feeds := by rw [← List.append_assoc, ← otherSpelled]

end Trimmed

section Lines

variable {indent : Nat} {afterBreak : Bool} {left right leftRest rightRest rest others : List Char}
  {first : Char}

/-- What follows goes on in a line that is indented less, or holds nothing but line feeds. -/
def Outdented (indent : Nat) (rest : List Char) : Prop :=
  Blank rest ∨ ∃ count first others, count < indent ∧ rest = spaces count ++ first :: others ∧
    first ≠ ' ' ∧ isBreak first = false

theorem Outdented.mono {less more : Nat} (out : Outdented less rest) (ordered : less ≤ more) :
    Outdented more rest := by
  rcases out with blank | ⟨count, first, others, small, parts⟩
  · exact .inl blank
  · exact .inr ⟨count, first, others, Nat.lt_of_lt_of_le small ordered, parts⟩

theorem spaces_ne {count : Nat} (less : count < indent) (visible : first ≠ ' ') :
    spaces count ++ first :: others ≠ spaces indent ++ rest := by
  obtain ⟨more, rfl⟩ : ∃ more, indent = count + (more + 1) := ⟨indent - count - 1, by omega⟩
  have split : spaces (count + (more + 1)) = spaces count ++ ' ' :: spaces more := by
    simp [spaces, ← List.replicate_append_replicate, List.replicate_succ]
  rw [split, List.append_assoc]
  intro same
  exact visible (List.cons.inj (List.append_cancel_left same)).1

theorem indentLines_break (breaks : isBreak first) (rest : List Char) :
    indentLines indent afterBreak (first :: rest) = first :: indentLines indent true rest := by
  rw [indentLines, if_pos breaks]

theorem indentLines_cons (unbroken : isBreak first = false) (rest : List Char) :
    indentLines indent afterBreak (first :: rest) =
      (if afterBreak then spaces indent else []) ++ first :: indentLines indent false rest := by
  rw [indentLines, if_neg (by simp [unbroken])]

theorem subset_indentLines (text : List Char) : text ⊆ indentLines indent afterBreak text := by
  induction text generalizing afterBreak with
  | nil => simp
  | cons first rest ih =>
      rw [indentLines]
      split
      · exact List.cons_subset_cons first ih
      · exact fun character member =>
          List.mem_append_right _ (List.cons_subset_cons first ih member)

theorem blank_of_outdented (out : Outdented indent leftRest)
    (same : leftRest = indentLines indent true (first :: others) ++ rightRest) :
    Blank leftRest ∧ Blank (first :: others) ∧ Blank rightRest := by
  rcases out with blank | ⟨count, visible, more, small, spelled, notSpace, unbroken⟩
  · have parts := List.forall_mem_append.mp (same ▸ blank)
    exact ⟨blank, fun character member => parts.1 character (subset_indentLines _ member), parts.2⟩
  · exfalso
    rw [spelled] at same
    cases breaks : isBreak first with
    | true =>
        rw [indentLines_break breaks] at same
        exact spaces_ne_break breaks unbroken same
    | false =>
        rw [indentLines_cons breaks, List.append_assoc] at same
        exact spaces_ne small notSpace same

def endsLine : (afterBreak : Bool) → List Char → Bool
  | afterBreak, [] => afterBreak
  | _, character :: rest => endsLine (isBreak character) rest

theorem indentLines_unique (leftOut : Outdented indent leftRest)
    (rightOut : Outdented indent rightRest) (leftEnds : endsLine afterBreak left)
    (rightEnds : endsLine afterBreak right)
    (same : indentLines indent afterBreak left ++ leftRest =
      indentLines indent afterBreak right ++ rightRest) :
    (left = right ∧ leftRest = rightRest) ∨
      (Blank leftRest ∧ Blank rightRest ∧ trimmed left = trimmed right) := by
  induction left generalizing right afterBreak with
  | nil =>
      cases right with
      | nil => exact .inl ⟨rfl, same⟩
      | cons first others =>
          change afterBreak = true at leftEnds
          subst leftEnds
          obtain ⟨blank, lines, behind⟩ := blank_of_outdented leftOut same
          exact .inr ⟨blank, behind, (trimmed_of_blank lines).symm⟩
  | cons first others ih =>
      cases right with
      | nil =>
          change afterBreak = true at rightEnds
          subst rightEnds
          obtain ⟨blank, lines, behind⟩ := blank_of_outdented rightOut same.symm
          exact .inr ⟨behind, blank, trimmed_of_blank lines⟩
      | cons second more =>
          have step (condition : Bool) (same : indentLines indent condition others ++ leftRest =
              indentLines indent condition more ++ rightRest)
              (ends : endsLine condition others) (moreEnds : endsLine condition more) :
              (first :: others = first :: more ∧ leftRest = rightRest) ∨
                (Blank leftRest ∧ Blank rightRest ∧
                  trimmed (first :: others) = trimmed (first :: more)) := by
            rcases ih ends moreEnds same with ⟨rfl, rfl⟩ | ⟨blank, behind, alike⟩
            · exact .inl ⟨rfl, rfl⟩
            · exact .inr ⟨blank, behind, trimmed_congr [first] alike⟩
          cases firstBreaks : isBreak first <;> cases secondBreaks : isBreak second
          case true.true =>
            rw [indentLines_break firstBreaks, indentLines_break secondBreaks] at same
            obtain ⟨rfl, behind⟩ := List.cons.inj same
            rw [endsLine, firstBreaks] at leftEnds rightEnds
            exact step true behind leftEnds rightEnds
          case false.false =>
            rw [indentLines_cons firstBreaks, indentLines_cons secondBreaks, List.append_assoc,
              List.append_assoc] at same
            obtain ⟨rfl, behind⟩ := List.cons.inj (List.append_cancel_left same)
            rw [endsLine, firstBreaks] at leftEnds rightEnds
            exact step false behind leftEnds rightEnds
          case true.false =>
            rw [indentLines_break firstBreaks, indentLines_cons secondBreaks, List.append_assoc] at same
            exact absurd same.symm (indented_ne_break firstBreaks secondBreaks)
          case false.true =>
            rw [indentLines_cons firstBreaks, indentLines_break secondBreaks, List.append_assoc] at same
            exact absurd same (indented_ne_break secondBreaks firstBreaks)

theorem indentLines_append_blank {feeds : List Char} (blank : Blank feeds) (text : List Char) :
    indentLines indent afterBreak (text ++ feeds) = indentLines indent afterBreak text ++ feeds := by
  induction text generalizing afterBreak with
  | nil =>
      rw [List.nil_append]
      induction feeds generalizing afterBreak with
      | nil => rfl
      | cons first others ih =>
          obtain ⟨rfl, behind⟩ := List.forall_mem_cons.mp blank
          exact congrArg (List.cons '\n') (ih behind)
  | cons first rest ih =>
      rw [List.cons_append, indentLines, indentLines, ih, ih]
      split <;> simp

theorem getLast?_indentLines (front : List Char) (last : Char) :
    (indentLines indent afterBreak (front ++ [last])).getLast? = some last := by
  induction front generalizing afterBreak with
  | nil => cases breaks : isBreak last <;> simp [indentLines, breaks]
  | cons first rest ih =>
      rw [List.cons_append, indentLines]
      split <;> simp [List.getLast?_cons, ih]

theorem exists_last {text : List Char} (nonempty : text ≠ []) :
    ∃ front last, text = front ++ [last] :=
  ⟨_, _, (List.dropLast_concat_getLast nonempty).symm⟩

theorem endLine_append_singleton (front : List Char) (last : Char) :
    endLine (front ++ [last]) =
      if isBreak last then front ++ [last] else front ++ [last] ++ ['\n'] := by
  rw [endLine, List.getLast?_concat, Option.any_some]

theorem endLine_indentLines {text : List Char} (nonempty : text ≠ []) (front : List Char) :
    endLine (front ++ indentLines indent afterBreak text) =
      front ++ indentLines indent afterBreak (endLine text) := by
  obtain ⟨start, last, rfl⟩ := exists_last nonempty
  have ending : (indentLines indent afterBreak (start ++ [last])).getLast? = some last :=
    getLast?_indentLines start last
  rw [endLine_append_singleton, endLine, List.getLast?_append, ending, Option.some_or,
    Option.any_some]
  split
  · rfl
  · rw [indentLines_append_blank blank_feed, List.append_assoc]

theorem endsLine_append (text : List Char) (last : Char) :
    endsLine afterBreak (text ++ [last]) = isBreak last := by
  induction text generalizing afterBreak with
  | nil => rfl
  | cons first rest ih => exact ih

theorem endsLine_endLine (text : List Char) : endsLine true (endLine text) := by
  rcases List.eq_nil_or_concat text with rfl | ⟨front, last, rfl⟩
  · rfl
  · rw [List.concat_eq_append, endLine_append_singleton]
    split
    · rw [endsLine_append]
      assumption
    · exact endsLine_append _ _

end Lines

section Signs

variable {left right : List Char}

theorem blockHint_cases (text : List Char) : blockHint text = [] ∨ blockHint text = ['2'] := by
  unfold blockHint
  split
  · split
    · exact .inr rfl
    · exact .inl rfl
  · exact .inl rfl

/-- A block without a sign ends with a single break. -/
def EndsOnce (text : List Char) : Prop :=
  ∃ front last, text = front ++ [last] ∧ isBreak last ∧ front.getLast?.any isBreak = false

theorem blockSign_cases (text : List Char) :
    (blockSign text = ['-'] ∧ text.getLast?.any isBreak = false) ∨
      (blockSign text = ['+'] ∧ text.getLast?.any isBreak) ∨
        (blockSign text = [] ∧ text.getLast?.any isBreak ∧ EndsOnce text) := by
  have back : text = text.reverse.reverse := text.reverse_reverse.symm
  rw [← List.head?_reverse]
  unfold blockSign
  split
  · rename_i empty
    exact .inl ⟨rfl, by rw [empty]; rfl⟩
  · rename_i last only
    rw [only]
    cases breaks : isBreak last <;> simp [breaks]
  · rename_i last before others spelled
    rw [spelled] at back ⊢
    cases breaks : isBreak last with
    | false => simp [breaks]
    | true =>
        cases twice : isBreak before with
        | true => simp [breaks]
        | false =>
            refine .inr (.inr ⟨by simp, by simp [breaks], (before :: others).reverse, last, ?_, breaks, ?_⟩)
            · simpa using back
            · simp [twice]

theorem blockMarks_unique {leftLines rightLines : List Char}
    (same : blockMarks left ++ '\n' :: leftLines = blockMarks right ++ '\n' :: rightLines) :
    blockSign left = blockSign right ∧ leftLines = rightLines := by
  unfold blockMarks at same
  rcases blockHint_cases left with hint | hint <;>
    rcases blockHint_cases right with otherHint | otherHint <;>
      rcases blockSign_cases left with ⟨sign, _⟩ | ⟨sign, _⟩ | ⟨sign, _⟩ <;>
        rcases blockSign_cases right with ⟨otherSign, _⟩ | ⟨otherSign, _⟩ | ⟨otherSign, _⟩ <;>
          simp_all

theorem trimmed_of_unbroken {text : List Char} (unbroken : text.getLast?.any isBreak = false) :
    trimmed text = text := by
  rcases List.eq_nil_or_concat text with rfl | ⟨front, last, rfl⟩
  · rfl
  · rw [List.concat_eq_append] at unbroken ⊢
    apply trimmed_append_singleton
    rintro rfl
    simp [isBreak] at unbroken

theorem trimmed_append_feed {text : List Char} (unbroken : text.getLast?.any isBreak = false) :
    trimmed (text ++ ['\n']) = text := by
  rw [trimmed_append_blank blank_feed, trimmed_of_unbroken unbroken]

theorem EndsOnce.unique (leftOnce : EndsOnce left) (rightOnce : EndsOnce right)
    (same : trimmed left = trimmed right) : left = right := by
  obtain ⟨front, last, rfl, breaks, unbroken⟩ := leftOnce
  obtain ⟨otherFront, otherLast, rfl, otherBreaks, otherUnbroken⟩ := rightOnce
  by_cases feed : last = '\n' <;> by_cases otherFeed : otherLast = '\n'
  · subst feed otherFeed
    rw [trimmed_append_feed unbroken, trimmed_append_feed otherUnbroken] at same
    rw [same]
  · subst feed
    rw [trimmed_append_feed unbroken, trimmed_append_singleton otherFeed] at same
    rw [same, List.getLast?_concat, Option.any_some, otherBreaks] at unbroken
    contradiction
  · subst otherFeed
    rw [trimmed_append_feed otherUnbroken, trimmed_append_singleton feed] at same
    rw [← same, List.getLast?_concat, Option.any_some, breaks] at otherUnbroken
    contradiction
  · rwa [trimmed_append_singleton feed, trimmed_append_singleton otherFeed] at same

theorem endLine_of_break {text : List Char} (breaks : text.getLast?.any isBreak) :
    endLine text = text := if_pos breaks

theorem trimmed_endLine (text : List Char) : trimmed (endLine text) = trimmed text := by
  unfold endLine
  split
  · rfl
  · exact trimmed_append_blank blank_feed

theorem endLine_block {indent : Nat} {text : List Char} (nonempty : text ≠ []) :
    endLine (blockMarks text ++ '\n' :: indentLines indent true text) =
      blockMarks text ++ '\n' :: indentLines indent true (endLine text) := by
  have ending : endLine (blockMarks text ++ ['\n'] ++ indentLines indent true text) = _ :=
    endLine_indentLines nonempty _
  rwa [List.append_assoc, List.append_assoc] at ending

/-- A block is known from its text, or but for the line feeds at its end if it keeps them all and
nothing but line feeds follows. -/
theorem block_unique {indent : Nat} {leftRest rightRest : List Char} (leftSome : left ≠ [])
    (rightSome : right ≠ []) (leftOut : Outdented indent leftRest)
    (rightOut : Outdented indent rightRest)
    (same : endLine (blockMarks left ++ '\n' :: indentLines indent true left) ++ leftRest =
      endLine (blockMarks right ++ '\n' :: indentLines indent true right) ++ rightRest) :
    (left = right ∧ leftRest = rightRest) ∨
      (Blank leftRest ∧ Blank rightRest ∧ blockSign left = ['+'] ∧ blockSign right = ['+'] ∧
        trimmed left = trimmed right) := by
  have lines := same
  rw [endLine_block leftSome, endLine_block rightSome, List.append_assoc, List.append_assoc,
    List.cons_append, List.cons_append] at lines
  obtain ⟨signs, lines⟩ := blockMarks_unique lines
  have whole (equal : left = right) : left = right ∧ leftRest = rightRest := by
    subst equal
    exact ⟨rfl, List.append_cancel_left same⟩
  have known := indentLines_unique leftOut rightOut (endsLine_endLine left) (endsLine_endLine right)
    lines
  have alike : trimmed left = trimmed right := by
    rw [← trimmed_endLine left, ← trimmed_endLine right]
    rcases known with ⟨equal, _⟩ | ⟨_, _, alike⟩
    · rw [equal]
    · exact alike
  have other := blockSign_cases right
  rw [← signs] at other
  rcases blockSign_cases left with ⟨sign, unbroken⟩ | ⟨sign, breaks⟩ | ⟨sign, _, once⟩
  · have otherUnbroken : right.getLast?.any isBreak = false := by simpa [sign] using other
    rw [trimmed_of_unbroken unbroken, trimmed_of_unbroken otherUnbroken] at alike
    exact .inl (whole alike)
  · have otherBreaks : right.getLast?.any isBreak := by simpa [sign] using other
    rcases known with ⟨equal, _⟩ | ⟨blank, otherBlank, _⟩
    · rw [endLine_of_break breaks, endLine_of_break otherBreaks] at equal
      exact .inl (whole equal)
    · exact .inr ⟨blank, otherBlank, sign, signs ▸ sign, alike⟩
  · have otherOnce : right.getLast?.any isBreak ∧ EndsOnce right := by simpa [sign] using other
    exact .inl (whole (once.unique otherOnce.2 alike))

theorem head?_of_blank {text : List Char} (nonempty : text ≠ []) (blank : Blank text) :
    text.head? = some '\n' := by
  cases text with
  | nil => contradiction
  | cons first others => exact congrArg some (blank first List.mem_cons_self)

theorem head?_eq_of_trimmed (leftSome : left ≠ []) (rightSome : right ≠ [])
    (same : trimmed left = trimmed right) : left.head? = right.head? := by
  obtain ⟨feeds, blank, spelled⟩ := exists_feeds left
  obtain ⟨otherFeeds, otherBlank, otherSpelled⟩ := exists_feeds right
  rw [← same] at otherSpelled
  cases begun : trimmed left with
  | nil =>
      rw [begun, List.nil_append] at spelled otherSpelled
      subst spelled otherSpelled
      rw [head?_of_blank leftSome blank, head?_of_blank rightSome otherBlank]
  | cons first others =>
      rw [begun] at spelled otherSpelled
      rw [spelled, otherSpelled]
      rfl

theorem trimmed_block {indent : Nat} (leftSome : left ≠ []) (rightSome : right ≠ [])
    (signs : blockSign left = blockSign right) (same : trimmed left = trimmed right) :
    trimmed (blockMarks left ++ '\n' :: indentLines indent true left) =
      trimmed (blockMarks right ++ '\n' :: indentLines indent true right) := by
  have marks : blockMarks left = blockMarks right := by
    rw [blockMarks, blockMarks, blockHint, blockHint, head?_eq_of_trimmed leftSome rightSome same,
      signs]
  have lines (text : List Char) :
      trimmed (indentLines indent true text) = trimmed (indentLines indent true (trimmed text)) := by
    obtain ⟨feeds, blank, spelled⟩ := exists_feeds text
    conv => lhs; rw [spelled]
    rw [indentLines_append_blank blank, trimmed_append_blank blank]
  rw [marks]
  apply trimmed_congr _ (trimmed_congr ['\n'] _)
  rw [lines left, lines right, same]

end Signs

end Reshape.Yaml
