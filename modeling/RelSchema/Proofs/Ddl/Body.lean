import RelSchema.Proofs.Ddl.Rendered
import RelSchema.Proofs.Sql.Part

/-!
# The body that a script shows

A text behind the head of a statement shows the body of a table up to the parenthesis that closes
it, whatever the text is. If the text starts with rendered clauses, the definitions in this body
start with those clauses that stand for themselves.
-/

namespace RelSchema.Ddl

open Sql (Token Level Balanced SelfContained Trimmed Unmarked IsWhole stripComments)

theorem trimmed_headText (dialect : Dialect) (name : List Char) : Trimmed (headText dialect name) := by
  refine ⟨by simp [headText], ?_, ?_⟩
  · intro c hc
    cases hc
    decide
  · intro c hc
    rw [headText, List.getLast?_append] at hc
    cases hc
    decide

/-- Behind the head of a statement, nothing is cut up to the parenthesis that closes the body. -/
theorem segments_headText (dialect : Dialect) (name rest : List Char) :
    (Level.after? {} rest ≠ none ∧
        Sql.segments ';' (headText dialect name ++ rest) = [headText dialect name ++ rest]) ∨
      ∃ body behind, rest = body ++ ')' :: behind ∧ Balanced body ∧
        Sql.segments ';' (headText dialect name ++ rest)
          = Sql.attach (headText dialect name ++ body ++ [')']) (Sql.segments ';' behind) := by
  have hhead := selfContained_headText dialect name
  have hsplit : ∀ text, headText dialect name ++ text
      = (headWords ++ Naming.enclosed dialect.quoteChar name ++ [' ']) ++ '(' :: text := by
    intro text
    simp only [headText, List.append_assoc, List.cons_append, List.nil_append]
  cases hclose : Sql.Brackets.closeFrom {} none 0 0 rest with
  | none =>
      obtain ⟨last, hlast⟩ := Sql.Brackets.exists_after?_of_closeFrom hclose
      have hinside := Sql.segments_opening_append ';' hlast []
      rw [List.append_nil] at hinside
      refine Or.inl ⟨by rw [hlast]; exact Option.some_ne_none last, ?_⟩
      rw [hsplit, Sql.segments_append_of_whole hhead.whole hhead.balanced, hinside]
      simp [Sql.segmentsFrom, Sql.attach]
  | some close =>
      obtain ⟨body, behind, rfl, hbody, -⟩ := Sql.Brackets.exists_balanced_of_closeFrom hclose
      refine Or.inr ⟨body, behind, rfl, hbody, ?_⟩
      have hgroup : Balanced ('(' :: body ++ [')']) := Balanced.parenthesized hbody
      have hwhole := hhead.whole.append hhead.balanced (IsWhole.parenthesized ';' hbody)
      have hsplit' : headText dialect name ++ (body ++ ')' :: behind)
          = ((headWords ++ Naming.enclosed dialect.quoteChar name ++ [' '])
            ++ ('(' :: body ++ [')'])) ++ behind := by
        simp only [headText, List.append_assoc, List.cons_append, List.nil_append]
      rw [hsplit', Sql.segments_append_of_whole hwhole (hhead.balanced.append hgroup)]
      simp only [headText, List.append_assoc, List.cons_append, List.nil_append]

theorem bodyOf_of_after? {text : List Char} (h : Level.after? {} text ≠ none) :
    bodyOf text = [] := by
  rw [bodyOf]
  cases hclose : Sql.Brackets.closeFrom {} none 0 0 text with
  | none => rfl
  | some close =>
      obtain ⟨body, behind, rfl, hbody, -⟩ := Sql.Brackets.exists_balanced_of_closeFrom hclose
      refine absurd ?_ h
      rw [Level.after?_append_of_eq hbody]
      rfl

/-- If a script that starts with the head of a statement has a table, the statement has a body, and
the first table is assembled from it unless it is blank. -/
theorem exists_body_of_tablesIn {dialect : Dialect} {name rest : List Char} (hname : name ≠ [])
    {first : Table} {others : List Table}
    (htables : tablesIn dialect (headText dialect name ++ rest) = .ok (first :: others)) :
    ∃ body behind, rest = body ++ ')' :: behind ∧ Balanced body ∧
      (Text.trim body ≠ [] → assemble (.ofList name)
        ((Sql.definitions body).map (readDefinition dialect)) = .ok first) := by
  rw [tablesIn, mapM_eq_ok_iff, List.map_id] at htables
  rcases segments_headText dialect name rest with ⟨hopen, hsegments⟩ |
    ⟨body, behind, rfl, hbody, hsegments⟩
  · exfalso
    obtain ⟨kept, gap, htrim, rfl, -⟩ := (trimmed_headText dialect name).exists_trim_append rest
    have hkept : bodyOf kept = [] := by
      refine bodyOf_of_after? fun hnone => hopen ?_
      rw [Level.after?_append, hnone]
      rfl
    have hstatement : statementTable? dialect (headText dialect name ++ kept) = none := by
      rw [statementTable?_headText dialect hname, hkept]
      rfl
    have hstatements : Sql.statements (headText dialect name ++ (kept ++ gap))
        = [headText dialect name ++ kept] := by
      rw [Sql.statements, Sql.splitTopLevel, hsegments, List.map_singleton, htrim,
        List.filter_cons_of_pos]
      · rfl
      · simp [headText]
    rw [hstatements, List.filterMap_cons_none hstatement] at htables
    cases htables
  · refine ⟨body, behind, rfl, hbody, fun hblank => ?_⟩
    obtain ⟨part, parts, hparts⟩ := List.exists_cons_of_ne_nil
      (Sql.segmentsFrom_ne_nil ';' none 0 behind)
    obtain ⟨kept, gap, htrim, rfl, -⟩ := (trimmed_statement dialect name body).exists_trim_append part
    have hstatement : statementTable? dialect (headText dialect name ++ body ++ [')'] ++ kept)
        = some (assemble (.ofList name)
          ((Sql.definitions body).map (readDefinition dialect))) := by
      have hsplit : headText dialect name ++ body ++ [')'] ++ kept
          = headText dialect name ++ (body ++ ')' :: kept) := by simp
      rw [hsplit, statementTable?_headText dialect hname, bodyOf_of_balanced hbody,
        if_neg (by simpa using hblank)]
    have hstatements : Sql.statements (headText dialect name ++ (body ++ ')' :: behind))
        = (headText dialect name ++ body ++ [')'] ++ kept)
          :: (parts.map Text.trim).filter (!·.isEmpty) := by
      rw [Sql.statements, Sql.splitTopLevel, hsegments, Sql.segments, hparts, Sql.attach,
        List.map_cons, htrim, List.filter_cons_of_pos]
      simp [headText]
    rw [hstatements, List.filterMap_cons_some hstatement, List.map_cons, List.cons.injEq] at htables
    exact htables.1

/-- Whether a text is what is read as a body, up to its parenthesis, from the clauses on. -/
def ReadFrom (clauses : List (List Char)) (body : List Char) : Prop :=
  ∃ gap rest behind, (∀ c ∈ gap, Text.isBlank c = true) ∧ Balanced body ∧
    gap ++ stripComments (clausesText clauses ++ ')' :: rest) = body ++ ')' :: behind

theorem exists_eq_append_of_closing {front rest body behind : List Char} (hfront : Balanced front)
    (hbody : Balanced body) (h : front ++ rest = body ++ ')' :: behind) :
    ∃ more, body = front ++ more ∧ rest = more ++ ')' :: behind ∧ Balanced more := by
  rcases List.append_eq_append_iff.mp h with ⟨more, rfl, hrest⟩ | ⟨tail, rfl, htail⟩
  · exact ⟨more, rfl, hrest, hbody.of_append hfront⟩
  · cases tail with
    | nil => exact ⟨[], by simp, htail.symm, .nil⟩
    | cons c tail =>
        rw [List.cons_append, List.cons.injEq] at htail
        obtain ⟨rfl, -⟩ := htail
        rw [Sql.Balanced, Level.after?_append_of_eq hbody] at hfront
        cases hfront

theorem balanced_of_blank {gap : List Char} (hgap : ∀ c ∈ gap, Text.isBlank c = true) :
    Balanced gap :=
  (SelfContained.of_blank Sql.isSeparating_comma.not_isBlank hgap).balanced

/-- What stands in front of a line break or a comma that is kept. -/
theorem stripComments_clause {clause : List Char} (hclause : SelfContained ',' clause) {c : Char}
    (hc : c = ',' ∨ c = '\n') (rest : List Char) :
    stripComments (clause ++ c :: rest) = clause ++ c :: stripComments rest := by
  have hmark : c ≠ '-' ∧ c ≠ '/' ∧ c ≠ '*' ∧ Sql.isQuote c = false := by
    rcases hc with rfl | rfl <;> decide
  obtain ⟨hhyphen, hslash, hstar, hquote⟩ := hmark
  have hunmarked : Unmarked (clause ++ [c]) := by
    refine hclause.unmarked.append (b := [c]) ?_ hclause.balanced.openQuote_eq fun d _ e he => ?_
    · exact Sql.commentStyle.unmarked_cons_iff.mpr ⟨Or.inr rfl, rfl⟩
    · cases he
      exact Sql.isMark_of_right hhyphen hstar
  have hopen : Text.openQuote Sql.quotes none (clause ++ [c]) = none := by
    rw [Text.openQuote_append, hclause.balanced.openQuote_eq]
    exact Sql.quoteAfter_of_not_isQuote hquote
  have happend := Sql.stripComments_append hunmarked hopen (by
    intro d hd
    rw [List.getLast?_append] at hd
    cases hd
    exact ⟨hhyphen, hslash⟩) rest
  simpa using happend

/-- Behind the last clause a body is blank. -/
theorem ReadFrom.isBlank_of_mem {body : List Char} (h : ReadFrom [] body) :
    ∀ c ∈ body, Text.isBlank c = true := by
  obtain ⟨gap, rest, behind, hgap, hbody, htext⟩ := h
  have hstrip : stripComments (clausesText [] ++ ')' :: rest) = ['\n'] ++ stripComments (')' :: rest) :=
    Sql.stripComments_append (by decide) (by decide) (by decide) _
  have hmark : rest.head?.any (Sql.commentStyle.isMark ')') = false := by
    cases rest with
    | nil => rfl
    | cons d rest => exact Sql.isMark_of_left (by decide) (by decide)
  obtain ⟨rest', hclose⟩ := Sql.exists_stripComments_cons hmark
  have hblank : ∀ c ∈ gap ++ ['\n'], Text.isBlank c = true := by
    intro c hc
    rcases List.mem_append.mp hc with hc | hc
    · exact hgap c hc
    · rw [List.mem_singleton.mp hc]
      decide
  rw [hstrip, ← List.append_assoc, hclose] at htext
  obtain ⟨more, rfl, hmore, hbalanced⟩ :=
    exists_eq_append_of_closing (balanced_of_blank hblank) hbody htext
  obtain rfl : more = [] := by
    cases more with
    | nil => rfl
    | cons c more =>
        rw [List.cons_append, List.cons.injEq] at hmore
        obtain ⟨rfl, -⟩ := hmore
        cases hbalanced
  rw [List.append_nil]
  exact hblank

theorem ReadFrom.definitions_nil {body : List Char} (h : ReadFrom [] body) :
    Sql.definitions body = [] := by
  have hgap := Sql.splitTopLevel_gap Sql.isSeparating_comma h.isBlank_of_mem []
  rw [List.append_nil] at hgap
  exact hgap

/-- A clause that stands for itself up to blanks is the first definition of a body. -/
theorem ReadFrom.exists_of_cons {clause : List Char} {clauses : List (List Char)} {body : List Char}
    (h : ReadFrom (clause :: clauses) body) {text blanks : List Char} (hsplit : clause = text ++ blanks)
    (htext : Standing text) (hblanks : ∀ c ∈ blanks, Text.isBlank c = true) :
    ∃ more, ReadFrom clauses more ∧ Sql.definitions body = text :: Sql.definitions more := by
  obtain ⟨gap, rest, behind, hgap, hbody, hall⟩ := h
  have hblank := SelfContained.of_blank Sql.isSeparating_comma.not_isBlank hblanks
  have hclause : SelfContained ',' clause := by
    rw [hsplit]
    refine htext.contained.append hblank fun c _ d hd => ?_
    have hd' := hblanks d (List.mem_of_mem_head? hd)
    exact Sql.isMark_of_right (Text.ne_of_isBlank hd' (by decide)) (Text.ne_of_isBlank hd' (by decide))
  have hfront := (balanced_of_blank hgap).append hclause.balanced
  cases clauses with
  | nil =>
      have hstrip : stripComments (clausesText [clause] ++ ')' :: rest)
          = clause ++ '\n' :: stripComments (')' :: rest) := by
        rw [clausesText, List.append_assoc]
        exact stripComments_clause hclause (Or.inr rfl) _
      have hbreak : '\n' :: stripComments (')' :: rest) = stripComments (clausesText [] ++ ')' :: rest) :=
        (Sql.stripComments_append (a := ['\n']) (by decide) (by decide) (by decide) _).symm
      rw [hstrip, ← List.append_assoc, hbreak] at hall
      obtain ⟨more, rfl, hmore, hbalanced⟩ := exists_eq_append_of_closing hfront hbody hall
      have hnil : ReadFrom [] more := ⟨[], rest, behind, by simp, hbalanced, hmore⟩
      have hblanks' : ∀ c ∈ blanks ++ more, Text.isBlank c = true := by
        intro c hc
        rcases List.mem_append.mp hc with hc | hc
        · exact hblanks c hc
        · exact hnil.isBlank_of_mem c hc
      have hparts := Sql.splitTopLevel_eq_singleton Sql.isSeparating_comma hgap hblanks'
        htext.contained.balanced htext.contained.whole htext.trimmed
      refine ⟨more, hnil, ?_⟩
      rw [hnil.definitions_nil, Sql.definitions, hsplit, ← hparts]
      simp
  | cons next clauses =>
      have hstrip : stripComments (clausesText (clause :: next :: clauses) ++ ')' :: rest)
          = clause ++ ',' :: (['\n', ' ', ' ']
            ++ stripComments (clausesText (next :: clauses) ++ ')' :: rest)) := by
        have hgap' : stripComments (['\n', ' ', ' '] ++ (clausesText (next :: clauses) ++ ')' :: rest))
            = ['\n', ' ', ' '] ++ stripComments (clausesText (next :: clauses) ++ ')' :: rest) :=
          Sql.stripComments_append (by decide) (by decide) (by decide) _
        rw [clausesText, List.append_assoc, ← hgap']
        exact stripComments_clause hclause (Or.inl rfl) _
      rw [hstrip] at hall
      have hcomma : Balanced (gap ++ clause ++ [',']) := hfront.append (by decide)
      have hall' : gap ++ clause ++ [','] ++ (['\n', ' ', ' ']
          ++ stripComments (clausesText (next :: clauses) ++ ')' :: rest)) = body ++ ')' :: behind := by
        rw [← hall]
        simp
      obtain ⟨more, rfl, hmore, hbalanced⟩ := exists_eq_append_of_closing hcomma hbody hall'
      refine ⟨more, ⟨['\n', ' ', ' '], rest, behind, by decide, hbalanced, hmore⟩, ?_⟩
      have hparts := Sql.splitTopLevel_append Sql.isSeparating_comma hgap hblanks
        htext.contained.balanced htext.contained.whole htext.trimmed more
      rw [Sql.definitions, hsplit, Sql.definitions, ← hparts]
      simp

end RelSchema.Ddl
