import RelSchema.Proofs.Dbml.Effect
import RelSchema.Proofs.Text.Class
import RelSchema.Proofs.Text.Cut
import RelSchema.Proofs.Text.Trim

/-!
# Contents of lines

A line without comments and blanks around it is its own content. Outside all blocks a line with the
word `Ref` and a colon applies the reference behind it, and does nothing else.
-/

namespace RelSchema.Dbml

theorem withoutComment_of_not_mem {quote? : Option Char} {s : List Char} (hs : '/' ∉ s) :
    withoutComment quote? s = s := by
  induction s generalizing quote? with
  | nil => rfl
  | cons c rest ih =>
      rw [List.mem_cons, not_or] at hs
      obtain ⟨hc, hrest⟩ := hs
      cases quote? with
      | some quote => rw [withoutComment, ih hrest]
      | none =>
          have hslash : ¬ (c == '/' && rest.head? == some '/') = true := by
            simp [Ne.symm hc]
          rw [withoutComment]
          split_ifs
          · rw [ih hrest]
          · rw [ih hrest]

theorem withoutComment_eq_self {s : List Char} (hquotes : ∀ c ∈ s, c ∉ quotes)
    (hslashes : ¬ ['/', '/'] <:+: s) : withoutComment none s = s := by
  induction s with
  | nil => rfl
  | cons c rest ih =>
      obtain ⟨hc, hrest⟩ := List.forall_mem_cons.mp hquotes
      have hrestSlashes : ¬ ['/', '/'] <:+: rest := fun h =>
        hslashes (h.trans (List.suffix_cons c rest).isInfix)
      have hslash : ¬ (c == '/' && rest.head? == some '/') = true := by
        intro h
        obtain ⟨hfirst, hsecond⟩ := Bool.and_eq_true_iff.mp h
        cases rest with
        | nil => cases hsecond
        | cons d rest =>
            obtain rfl := beq_iff_eq.mp hfirst
            obtain rfl := Option.some.inj (beq_iff_eq.mp hsecond)
            exact hslashes ⟨[], rest, rfl⟩
      rw [withoutComment, if_neg (by simpa using hc), if_neg hslash, ih hrest hrestSlashes]

theorem content_eq_self {line : List Char} (hslash : '/' ∉ line)
    (hfirst : ∀ c ∈ line.head?, Text.isBlank c = false)
    (hlast : ∀ c ∈ line.getLast?, Text.isBlank c = false) : content line = line := by
  rw [content, withoutComment_of_not_mem hslash, Text.trim_eq_self hfirst hlast]

theorem content_brace : content ['}'] = ['}'] := by
  decide

theorem link?_trim (body : List Char) : link? (Text.trim body) = link? body := by
  rw [link?, link?, Text.trim_trim]

theorem applyReference_trim (tables : List Table) (body : List Char) :
    applyReference tables (Text.trim body) = applyReference tables body := by
  rw [applyReference, applyReference, link?_trim]

theorem content_reference (body : List Char) :
    content ("Ref: ".toList ++ body)
      = "Ref:".toList ++ Text.trimRight (' ' :: withoutComment none body) := by
  have hcomment : withoutComment none ("Ref: ".toList ++ body)
      = "Ref:".toList ++ ' ' :: withoutComment none body := by
    simp [withoutComment, quotes]
  have hfirst : ∀ c ∈ ("Ref:".toList ++ ' ' :: withoutComment none body).head?,
      Text.isBlank c = false := by
    intro c hc
    cases hc
    decide
  rw [content, hcomment, Text.trim, Text.trimLeft_eq_self hfirst, Text.trimRight,
    Text.dropEndWhile_append_of_last (by decide), Text.trimRight]

namespace Reader

variable {reader : Reader}

theorem IsTop.readLine_eq (h : reader.IsTop) {line : List Char} (hne : content line ≠ []) :
    reader.readLine line = reader.readAtTop (content line) := by
  rw [readLine, if_neg (by simpa using hne), readContent, if_neg (by simp [h.2]), h.1]

/-- A line with the word and the colon of a reference has the trimmed text behind them as its
body. -/
theorem readAtTop_reference (gap : List Char) :
    reader.readAtTop ("Ref:".toList ++ gap)
      = reader.withTables (applyReference reader.tables (Text.trimLeft gap)) := by
  have hheader : header? ("Ref:".toList ++ gap) = none := rfl
  have hopens : opensReferences ("Ref:".toList ++ gap) = false := by
    cases gap with
    | nil => decide
    | cons c gap => simp [opensReferences, isReferenceName, Text.dropKeyword?, Text.isLetter]
  have hreference : reference? ("Ref:".toList ++ gap)
      = if (Text.trimLeft gap).isEmpty then none else some (Text.trimLeft gap) := by
    have hcut : (Text.dropKeyword? "ref".toList ("Ref:".toList ++ gap) >>= Text.cutAt? ':')
        = some ([], gap) := rfl
    have hname : isReferenceName [] = true := rfl
    rw [reference?, hcut]
    dsimp only
    rw [hname, Bool.true_and]
    cases (Text.trimLeft gap).isEmpty <;> rfl
  rw [readAtTop, hheader, hopens, if_neg Bool.false_ne_true, hreference]
  by_cases hblank : Text.trimLeft gap = []
  · -- nothing but blanks stands behind the colon, and they open no block
    have hblanks : ∀ c ∈ gap, Text.isBlank c = true := List.dropWhile_eq_nil_iff.mp hblank
    have hblock : opensBlock ("Ref:".toList ++ gap) = false := by
      refine beq_eq_false_iff_ne.mpr fun hlast => ?_
      have hmem := List.mem_of_getLast? hlast
      rcases List.mem_append.mp hmem with h | h
      · exact absurd h (by decide)
      · exact absurd (hblanks _ h) (by decide)
    rw [hblank, hblock]
    rfl
  · rw [if_neg (by simpa using hblank)]
    rfl

/-- A reference outside all blocks is applied to the tables that are closed before it. -/
theorem IsTop.readLine_reference (h : reader.IsTop) (body : List Char) :
    reader.readLine ("Ref: ".toList ++ body)
      = reader.withTables (applyReference reader.tables (withoutComment none body)) := by
  have hne : content ("Ref: ".toList ++ body) ≠ [] := by
    rw [content_reference]
    exact List.cons_ne_nil _ _
  rw [h.readLine_eq hne, content_reference, readAtTop_reference, Text.trimLeft_trimRight]
  have htrim : Text.trim (' ' :: withoutComment none body)
      = Text.trim (withoutComment none body) := by
    rw [Text.trim, Text.trimLeft, List.dropWhile_cons_of_pos (by decide)]
    rfl
  rw [htrim, applyReference_trim]

theorem readLine_close {name : String} {columns : List Column} {line : List Char}
    (hskipped : reader.skipped = 0) (hblock : reader.block = .table name columns)
    (hline : content line = ['}']) :
    reader.readLine line
      = { reader with
          tables := reader.tables ++ [closeTable name columns]
          block := .top } := by
  obtain ⟨tables, block, skipped⟩ := reader
  obtain ⟨rfl, rfl⟩ : skipped = 0 ∧ block = .table name columns := ⟨hskipped, hblock⟩
  rw [readLine, hline]
  rfl

end Reader

end RelSchema.Dbml
