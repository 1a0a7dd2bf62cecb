import RelSchema.Models.Declaration
import RelSchema.Proofs.Text.Comment

/-!
# Texts that hide marks

A text is calm about some marks if it shows none of them outside of quotes and closes every quote
that it opens. No comment starts in a text that is calm about slashes, and the search for a closing
brace passes over one that is calm about braces. Calm texts are put together from calm parts.
-/

namespace RelSchema.Models

open Sql (quoteAfter)

inductive Calm (marks : List Char) : List Char → Prop
  | nil : Calm marks []
  | code {c : Char} {s : List Char} (hmark : c ∉ marks) (hquote : c ∉ quotes) (hs : Calm marks s) :
      Calm marks (c :: s)
  | quoted {quote : Char} {content s : List Char} (hquote : quote ∈ quotes)
      (hcontent : quote ∉ content) (hs : Calm marks s) :
      Calm marks (quote :: content ++ quote :: s)

theorem quoteAfter_of_mem {quote : Char} (h : quote ∈ quotes) :
    quoteAfter quotes none quote = some quote :=
  if_pos (List.contains_iff_mem.mpr h)

theorem quoteAfter_of_not_mem {c : Char} (h : c ∉ quotes) : quoteAfter quotes none c = none :=
  if_neg (by simpa using h)

theorem quoteAfter_content {quote c : Char} (h : c ≠ quote) :
    quoteAfter quotes (some quote) c = some quote :=
  if_neg (by simpa using h)

theorem quoteAfter_end (quote : Char) : quoteAfter quotes (some quote) quote = none :=
  if_pos (beq_self_eq_true quote)

namespace Calm

variable {marks : List Char} {s t : List Char}

theorem append (hs : Calm marks s) (ht : Calm marks t) : Calm marks (s ++ t) := by
  induction hs with
  | nil => exact ht
  | code hmark hquote _ ih => exact .code hmark hquote ih
  | @quoted quote content s hquote hcontent _ ih =>
      have hassoc : quote :: content ++ quote :: s ++ t
          = quote :: content ++ quote :: (s ++ t) := List.append_assoc ..
      rw [hassoc]
      exact .quoted hquote hcontent ih

theorem of_all (h : ∀ c ∈ s, c ∉ marks ∧ c ∉ quotes) : Calm marks s := by
  induction s with
  | nil => exact .nil
  | cons c s ih =>
      obtain ⟨hc, hs⟩ := List.forall_mem_cons.mp h
      exact .code hc.1 hc.2 (ih hs)

theorem of_any (h : (s.any fun c => marks.contains c || quotes.contains c) = false) :
    Calm marks s := by
  rw [List.any_eq_false] at h
  refine of_all fun c hc => ?_
  simpa using h c hc

theorem enclosed {quote : Char} {content : List Char} (hquote : quote ∈ quotes)
    (hcontent : quote ∉ content) : Calm marks (quote :: content ++ [quote]) :=
  .quoted hquote hcontent .nil

theorem mono {more : List Char} (h : Calm more s) (hmarks : marks ⊆ more) : Calm marks s := by
  induction h with
  | nil => exact .nil
  | code hmark hquote _ ih => exact .code (fun hmem => hmark (hmarks hmem)) hquote ih
  | quoted hquote hcontent _ ih => exact .quoted hquote hcontent ih

theorem flatMap {α : Type} {f : α → List Char} {as : List α} (h : ∀ a ∈ as, Calm marks (f a)) :
    Calm marks (as.flatMap f) := by
  induction as with
  | nil => exact .nil
  | cons a as ih =>
      obtain ⟨ha, has⟩ := List.forall_mem_cons.mp h
      exact ha.append (ih has)

theorem isMark_of_ne {c : Char} (hc : c ≠ '/') (d : Char) : commentStyle.isMark c d = false := by
  have hline : commentStyle.lineMark = '/' := rfl
  simp [Text.CommentStyle.isMark, hline, hc]

/-- No comment starts inside quotes, and the text behind them is read as if it stood alone. -/
theorem unmarked_quoted {quote : Char} {content : List Char}
    (hcontent : quote ∉ content) (hs : commentStyle.unmarked none s = true) :
    commentStyle.unmarked (some quote) (content ++ quote :: s) = true := by
  induction content with
  | nil =>
      refine commentStyle.unmarked_cons_iff.mpr ⟨Or.inl rfl, ?_⟩
      rw [show commentStyle.quotes = quotes from rfl, quoteAfter_end]
      exact hs
  | cons c content ih =>
      have hc : c ≠ quote := fun h => hcontent (h ▸ List.mem_cons_self)
      refine commentStyle.unmarked_cons_iff.mpr ⟨Or.inl rfl, ?_⟩
      rw [show commentStyle.quotes = quotes from rfl, quoteAfter_content hc]
      exact ih fun hmem => hcontent (List.mem_cons_of_mem c hmem)

theorem unmarked (h : Calm marks s) (hslash : '/' ∈ marks) :
    commentStyle.unmarked none s = true := by
  induction h with
  | nil => rfl
  | @code c s hmark hquote _ ih =>
      have hc : c ≠ '/' := fun hc => hmark (hc ▸ hslash)
      refine commentStyle.unmarked_cons_iff.mpr ⟨Or.inr ?_, ?_⟩
      · cases s.head? with
        | none => rfl
        | some d => exact isMark_of_ne hc d
      · rw [show commentStyle.quotes = quotes from rfl, quoteAfter_of_not_mem hquote]
        exact ih
  | @quoted quote content s hquote hcontent _ ih =>
      have hne : quote ≠ '/' := by
        rintro rfl
        exact absurd hquote (by decide)
      rw [List.cons_append]
      refine commentStyle.unmarked_cons_iff.mpr ⟨Or.inr ?_, ?_⟩
      · cases (content ++ quote :: s).head? with
        | none => rfl
        | some d => exact isMark_of_ne hne d
      · rw [show commentStyle.quotes = quotes from rfl, quoteAfter_of_mem hquote]
        exact unmarked_quoted hcontent ih

theorem stripComments_eq_self (h : Calm ['/'] s) : stripComments s = s :=
  commentStyle.stripFrom_eq_self (h.unmarked List.mem_cons_self)

end Calm

/-- The braces around the fields of a structure. -/
def braces : Sql.Brackets where
  opening := '\x7b'
  closing := '\x7d'
  quotes := quotes

theorem closeFrom_cons_of_quote {quote? : Option Char} {quote : Char} {c : Char}
    (hquote : quote? = some quote ∨ quoteAfter quotes quote? c = some quote) (depth position : Nat)
    (s : List Char) :
    braces.closeFrom quote? depth position (c :: s)
      = braces.closeFrom (quoteAfter quotes quote? c) depth (position + 1) s := by
  simp only [Sql.Brackets.closeFrom]
  rw [if_pos]
  · rfl
  · rw [Bool.or_eq_true, Option.isSome_iff_exists, Option.isSome_iff_exists]
    exact hquote.imp (fun h => ⟨quote, h⟩) fun h => ⟨quote, h⟩

theorem closeFrom_cons_of_code {c : Char} (hquote : c ∉ quotes) (hopen : c ≠ '\x7b')
    (hclose : c ≠ '\x7d') (depth position : Nat) (s : List Char) :
    braces.closeFrom none depth position (c :: s)
      = braces.closeFrom none depth (position + 1) s := by
  have hcode : quoteAfter braces.quotes none c = none := quoteAfter_of_not_mem hquote
  have hopen' : (c == braces.opening) = false := beq_eq_false_iff_ne.mpr hopen
  have hclose' : (c == braces.closing) = false := beq_eq_false_iff_ne.mpr hclose
  simp only [Sql.Brackets.closeFrom, hcode, hopen', hclose']
  rfl

theorem closeFrom_quoted {quote : Char} {content : List Char} (hcontent : quote ∉ content)
    (depth position : Nat) (s : List Char) :
    braces.closeFrom (some quote) depth position (content ++ quote :: s)
      = braces.closeFrom none depth (position + (content.length + 1)) s := by
  induction content generalizing position with
  | nil =>
      rw [List.nil_append, closeFrom_cons_of_quote (Or.inl rfl), quoteAfter_end]
      rfl
  | cons c content ih =>
      have hc : c ≠ quote := fun h => hcontent (h ▸ List.mem_cons_self)
      have hlength : position + ((c :: content).length + 1)
          = position + 1 + (content.length + 1) := by
        rw [List.length_cons]
        omega
      rw [List.cons_append, closeFrom_cons_of_quote (Or.inl rfl), quoteAfter_content hc, hlength]
      exact ih (fun hmem => hcontent (List.mem_cons_of_mem c hmem)) (position + 1)

namespace Calm

variable {marks : List Char} {s : List Char}

theorem closeFrom_append (h : Calm marks s) (hopen : '\x7b' ∈ marks) (hclose : '\x7d' ∈ marks)
    (depth position : Nat) (rest : List Char) :
    braces.closeFrom none depth position (s ++ rest)
      = braces.closeFrom none depth (position + s.length) rest := by
  -- the depth stays, as braces are either absent or in quotes, while the position moves on
  induction h generalizing position with
  | nil => rfl
  | @code c s hmark hquote _ ih =>
      have hc : c ≠ '\x7b' ∧ c ≠ '\x7d' :=
        ⟨fun hc => hmark (hc ▸ hopen), fun hc => hmark (hc ▸ hclose)⟩
      rw [List.cons_append, closeFrom_cons_of_code hquote hc.1 hc.2, List.length_cons,
        Nat.add_comm s.length 1, ← Nat.add_assoc]
      exact ih (position + 1)
  | @quoted quote content s hquote hcontent _ ih =>
      have hlength : position + (quote :: content ++ quote :: s).length
          = position + 1 + (content.length + 1) + s.length := by
        simp only [List.length_append, List.length_cons]
        omega
      rw [hlength, ← ih, List.append_assoc, List.cons_append, List.cons_append,
        closeFrom_cons_of_quote (Or.inr (quoteAfter_of_mem hquote)), quoteAfter_of_mem hquote]
      exact closeFrom_quoted hcontent depth (position + 1) (s ++ rest)

/-- What stands between braces is found if it hides the braces in it. -/
theorem inside_braces (h : Calm marks s) (hopen : '\x7b' ∈ marks) (hclose : '\x7d' ∈ marks)
    (rest : List Char) : braces.inside ('\x7b' :: (s ++ '\x7d' :: rest)) = s := by
  have hcloses : braces.closeFrom none 0 1 (s ++ '\x7d' :: rest) = some (1 + s.length) := by
    rw [h.closeFrom_append hopen hclose]
    rfl
  have hfind : braces.find? ('\x7b' :: (s ++ '\x7d' :: rest)) = some (0, 1 + s.length) := by
    have hopens : braces.find? ('\x7b' :: (s ++ '\x7d' :: rest))
        = (braces.closeFrom none 0 1 (s ++ '\x7d' :: rest)).map fun close => (0, close) := rfl
    rw [hopens, hcloses]
    rfl
  rw [Sql.Brackets.inside, hfind]
  simp

end Calm

end RelSchema.Models
