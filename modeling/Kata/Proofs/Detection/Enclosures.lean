import Kata.Helper.Plan
import Kata.Proofs.Source.Comments

/-!
# Contents of comments and quoted texts

A comment or a quoted text can be put in wherever the source text ahead of it ends in code. What
then comes through the scanner is the marks of the quoted text, or a blank and the line feeds of the
comment, and none of its other contents. So two sources that differ only in such contents, with the
same number of line feeds, look alike in every inspection of a solution.
-/

namespace Kata.Source

open Kata.Language (CommentStyle)

/-! ## Enclosures -/

/-- What keeps a part of a source text from being inspected. -/
inductive Enclosure where
  | slashComment
  | hashComment
  | blockComment
  | quotes (quote : Char)
deriving DecidableEq, Repr

namespace Enclosure

/-- A content with the marks around it. -/
def around : Enclosure → Text → Text
  | slashComment, content => '/' :: '/' :: content ++ ['\n']
  | hashComment, content => '#' :: content ++ ['\n']
  | blockComment, content => '/' :: '*' :: content ++ ['*', '/']
  | quotes quote, content => quote :: content ++ [quote]

/-- What is left of a content with the marks around it. -/
def trace : Enclosure → Text → Text
  | slashComment, _ => ['\n']
  | hashComment, _ => ['\n']
  | blockComment, content => ' ' :: content.filter (· == '\n')
  | quotes quote, _ => [quote, quote]

/-- That the opening mark opens the enclosure in a style behind a text, and that the content does
not close it. -/
def Holds (style : CommentStyle) (before content : Text) : Enclosure → Prop
  | slashComment => style = .slash ∧ before.getLast? ≠ some '/' ∧ '\n' ∉ content
  | hashComment => style = .hash ∧ '\n' ∉ content
  | blockComment => style = .slash ∧ before.getLast? ≠ some '/' ∧ ¬['*', '/'] <:+: content
  | quotes quote =>
    opensQuote style quote = true ∧ before.getLast? ≠ some quote ∧ content ≠ [] ∧
      quote ∉ content ∧ '\\' ∉ content ∧ '\n' ∉ content

instance (style : CommentStyle) (before content : Text) (enclosure : Enclosure) :
    Decidable (enclosure.Holds style before content) := by
  cases enclosure <;> exact inferInstanceAs (Decidable (_ ∧ _))

/-- Contents with the same number of line feeds leave the same behind. -/
theorem trace_of_count
    (enclosure : Enclosure) {first second : Text}
    (sameLines : first.count '\n' = second.count '\n') :
    enclosure.trace first = enclosure.trace second := by
  cases enclosure with
  | slashComment => rfl
  | hashComment => rfl
  | blockComment =>
      have kept :
          ∀ content : Text,
            content.filter (· == '\n') = List.replicate (content.count '\n') '\n' :=
        fun _ => List.filter_beq '\n'
      rw [trace, trace, kept, kept, sameLines]
  | quotes quote => rfl

end Enclosure

/-! ## Scanning an enclosure -/

/-- Nothing of the inside of a quoted text is kept. -/
theorem keep_quoted
    (style : CommentStyle) {quote : Char} {content : Text} (noQuote : quote ∉ content)
    (noBackslash : '\\' ∉ content) (oneLine : '\n' ∉ content) (notBackslash : quote ≠ '\\')
    (notLineFeed : quote ≠ '\n') (text : Text) :
    (Scanner.entering (.quoted quote)).keep style (content ++ quote :: text) =
      quote :: stripComments style text := by
  induction content with
  | nil =>
      have step :
          (Scanner.entering (.quoted quote)).step style quote text = ([quote], Scanner.start) := by
        change stepQuoted quote quote = ([quote], Scanner.start)
        rw [stepQuoted, if_neg notBackslash, if_neg fun both => notLineFeed both.1, if_pos rfl]
        rfl
      rw [List.nil_append, keep_cons, step]
      rfl
  | cons c content inductionHypothesis =>
      rw [List.mem_cons, not_or] at noQuote noBackslash oneLine
      have later := inductionHypothesis noQuote.2 noBackslash.2 oneLine.2
      have step :
          (Scanner.entering (.quoted quote)).step style c (content ++ quote :: text) =
            ([], .entering (.quoted quote)) := by
        change stepQuoted quote c = ([], .entering (.quoted quote))
        rw [stepQuoted, if_neg (Ne.symm noBackslash.1), if_neg fun both => oneLine.1 both.1.symm,
          if_neg (Ne.symm noQuote.1), if_neg (Ne.symm oneLine.1)]
      rw [List.cons_append, keep_cons, step, later]
      rfl

/-- A quote ahead of a content that does not begin with it opens a text that is quoted once. -/
theorem stepCode_quote
    {style : CommentStyle} {quote : Char} {content : Text} (opens : opensQuote style quote = true)
    (nonempty : content ≠ []) (noQuote : quote ∉ content) (text : Text) :
    stepCode style quote (content ++ text) = ([quote], .entering (.quoted quote)) := by
  have isQuote := isQuote_of_opensQuote opens
  have notHash : quote ≠ '#' := ne_of_isQuote isQuote (by decide)
  have notSlash : quote ≠ '/' := ne_of_isQuote isQuote (by decide)
  have single : isTripled quote (content ++ text) = false := by
    obtain ⟨c, others, rfl⟩ := List.exists_cons_of_ne_nil nonempty
    have different : c ≠ quote := by
      rintro rfl
      exact noQuote List.mem_cons_self
    rw [isTripled, List.cons_append, List.take_succ_cons, beq_eq_false_iff_ne]
    exact fun same => different (List.cons.inj same).1
  have notTripled : ¬(style = .hash ∧ isTripled quote (content ++ text) = true) := by
    rw [single]
    exact fun both => Bool.false_ne_true both.2
  rw [stepCode, if_neg fun both => notHash both.2, if_neg fun all => notSlash all.2.1,
    if_neg fun all => notSlash all.2.1, if_pos opens, if_neg notTripled]

/-- What is kept of an enclosure at the start of a text. -/
theorem stripComments_around
    {style : CommentStyle} {before content : Text} {enclosure : Enclosure}
    (holds : enclosure.Holds style before content) (after : Text) :
    stripComments style (enclosure.around content ++ after) =
      enclosure.trace content ++ stripComments style after := by
  cases enclosure with
  | slashComment =>
      obtain ⟨rfl, _, oneLine⟩ := holds
      have whole :
          Enclosure.slashComment.around content ++ after =
            '/' :: '/' :: (content ++ '\n' :: after) := by
        simp [Enclosure.around]
      rw [whole]
      exact keep_lineComment .slash oneLine after
  | hashComment =>
      obtain ⟨rfl, oneLine⟩ := holds
      have whole :
          Enclosure.hashComment.around content ++ after = '#' :: content ++ '\n' :: after := by
        simp [Enclosure.around]
      rw [whole]
      exact stripComments_hashComment oneLine after
  | blockComment =>
      obtain ⟨rfl, _, unclosed⟩ := holds
      have whole :
          Enclosure.blockComment.around content ++ after =
            '/' :: '*' :: (content ++ '*' :: '/' :: after) := by
        simp [Enclosure.around]
      rw [whole]
      exact congrArg (' ' :: ·) (keep_blockComment .slash unclosed after)
  | quotes quote =>
      obtain ⟨opens, _, nonempty, noQuote, noBackslash, oneLine⟩ := holds
      have isQuote := isQuote_of_opensQuote opens
      have notBackslash : quote ≠ '\\' := ne_of_isQuote isQuote (by decide)
      have notLineFeed : quote ≠ '\n' := ne_of_isQuote isQuote (by decide)
      have opened := stepCode_quote opens nonempty noQuote (quote :: after)
      have kept := keep_quoted style noQuote noBackslash oneLine notBackslash notLineFeed after
      have whole :
          (Enclosure.quotes quote).around content ++ after =
            quote :: (content ++ quote :: after) := by
        simp [Enclosure.around]
      rw [whole, stripComments, keep_cons]
      change (stepCode style quote (content ++ quote :: after)).1 ++
          (stepCode style quote (content ++ quote :: after)).2.keep style
            (content ++ quote :: after) = _
      rw [opened, kept]
      rfl

/-- An enclosure behind a text that ends in code leaves its trace, and what is around it is
stripped as if it stood alone. -/
theorem stripComments_around_behind
    {style : CommentStyle} {before content : Text} {enclosure : Enclosure}
    (ends : EndsInCode style before) (holds : enclosure.Holds style before content) (after : Text) :
    stripComments style (before ++ enclosure.around content ++ after) =
      stripComments style before ++ enclosure.trace content ++ stripComments style after := by
  have alone := stripComments_around holds after
  have apart :
      stripComments style (before ++ (enclosure.around content ++ after)) =
        stripComments style before ++ stripComments style (enclosure.around content ++ after) := by
    cases enclosure with
    | slashComment =>
        exact stripComments_append _ ends (by decide) fun _ => holds.2.1
    | hashComment =>
        exact stripComments_append _ ends (by decide) fun seen => absurd seen (by decide)
    | blockComment =>
        exact stripComments_append _ ends (by decide) fun _ => holds.2.1
    | quotes quote =>
        have notStar : quote ≠ '*' := ne_of_isQuote (isQuote_of_opensQuote holds.1) (by decide)
        exact stripComments_append _ ends notStar fun _ => holds.2.1
  rw [List.append_assoc, apart, alone, List.append_assoc]

end Kata.Source

namespace Kata.Detection

open Kata.Language (CommentStyle)
open Kata.Source (EndsInCode Enclosure stripComments)

/-- The contents of comments and quoted texts do not come through the scanner, wherever they are put
in behind a text that ends in code, and so they decide neither which function is found, nor which
types are declared or named, nor which helpers are planned. -/
theorem contents_are_not_inspected :
    (∀ (style : CommentStyle) (before content after : Text) (enclosure : Enclosure),
      EndsInCode style before → enclosure.Holds style before content →
        stripComments style (before ++ enclosure.around content ++ after) =
          stripComments style before ++ enclosure.trace content ++ stripComments style after) ∧
    (∀ (language : Language) (before first second after : Text) (enclosure : Enclosure),
      EndsInCode language.commentStyle before →
      enclosure.Holds language.commentStyle before first →
      enclosure.Holds language.commentStyle before second →
      first.count '\n' = second.count '\n' →
        let source := before ++ enclosure.around first ++ after
        let variant := before ++ enclosure.around second ++ after
        (∀ expected, entryName language source expected = entryName language variant expected) ∧
        (∀ typeName,
          declaresType language (stripped language source) typeName =
            declaresType language (stripped language variant) typeName) ∧
        (∀ typeName,
          namesType (stripped language source) typeName =
            namesType (stripped language variant) typeName) ∧
        (∀ request : Request,
          Helper.plans language { request with source := source } =
            Helper.plans language { request with source := variant })) := by
  refine ⟨fun style before content after enclosure ends holds =>
    Source.stripComments_around_behind ends holds after, ?_⟩
  intro language before first second after enclosure ends firstHolds secondHolds sameLines source
    variant
  have sameStripped : stripped language source = stripped language variant := by
    rw [stripped, stripped, Source.stripComments_around_behind ends firstHolds,
      Source.stripComments_around_behind ends secondHolds, enclosure.trace_of_count sameLines]
  have samePlan :
      ∀ (request : Request) (kind : Structure),
        Helper.plan? language { request with source := source } kind =
          Helper.plan? language { request with source := variant } kind := by
    intro request kind
    simp only [Helper.plan?, sameStripped]
    rfl
  refine ⟨?_, ?_, ?_, ?_⟩
  · intro expected
    rw [entryName, entryName, sameStripped]
  · intro typeName
    rw [sameStripped]
  · intro typeName
    rw [sameStripped]
  · intro request
    rw [Helper.plans, Helper.plans, funext (samePlan request)]

/-- A text in single quotes behind a docstring, and a block comment whose first content looks like a
declaration behind a quoted comment mark. -/
theorem contents_are_not_inspected_behind_quotes :
    let docstring : Text := "def f(n):\n    \"\"\"it's\"\"\"\n    return "
    let hidden : Text := "# class ListNode: \"\"\""
    let before : Text := "string s = \"/*\"; /* ' */ "
    let first : Text := "struct ListNode \x7b\n\x7d; int g() \x7b /* "
    let second : Text := "\n"
    let after : Text := "int f(int n) \x7b return n; \x7d"
    let source := before ++ Enclosure.blockComment.around first ++ after
    let variant := before ++ Enclosure.blockComment.around second ++ after
    (EndsInCode .hash docstring ∧ (Enclosure.quotes '\'').Holds .hash docstring hidden ∧
      stripComments .hash (docstring ++ (Enclosure.quotes '\'').around hidden ++ ['\n']) =
        stripComments .hash docstring ++ ['\'', '\''] ++ stripComments .hash ['\n']) ∧
    (EndsInCode .slash before ∧ Enclosure.blockComment.Holds .slash before first ∧
      Enclosure.blockComment.Holds .slash before second ∧
      entryName .cpp source "solve" = entryName .cpp variant "solve" ∧
      declaresType .cpp (stripped .cpp source) "ListNode" =
        declaresType .cpp (stripped .cpp variant) "ListNode") := by
  intro docstring hidden before first second after source variant
  have docstringEnds : EndsInCode .hash docstring := by decide +kernel
  have hiddenHolds : (Enclosure.quotes '\'').Holds .hash docstring hidden := by decide +kernel
  have beforeEnds : EndsInCode .slash before := by decide +kernel
  have firstHolds : Enclosure.blockComment.Holds .slash before first := by decide +kernel
  have secondHolds : Enclosure.blockComment.Holds .slash before second := by decide +kernel
  have alike :=
    contents_are_not_inspected.2 .cpp before first second after .blockComment beforeEnds firstHolds
      secondHolds (by decide +kernel)
  refine ⟨⟨docstringEnds, hiddenHolds, ?_⟩,
    ⟨beforeEnds, firstHolds, secondHolds, alike.1 _, alike.2.1 _⟩⟩
  exact contents_are_not_inspected.1 .hash docstring hidden ['\n'] (.quotes '\'') docstringEnds
    hiddenHolds

end Kata.Detection
