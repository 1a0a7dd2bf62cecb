import RelSchema.Proofs.Dbml.Effect
import RelSchema.Proofs.Dbml.Line
import RelSchema.Proofs.Dbml.Path

/-!
# Tables that a reference reaches

A table whose names stand in quotes is declared under these names, whatever is in them. A reference
from its column between the same quotes is read by other rules, and gets to the column exactly if no
name stops it.
-/

namespace RelSchema.Dbml

def quoted (name : String) : String :=
  "\"" ++ name ++ "\""

/-- The block of a table with one column, both names in quotes. -/
def declaration (column : Target) : String :=
  "Table " ++ quoted column.table ++ " \x7b" ++ "\n" ++ (quoted column.column ++ " integer") ++
    "\n" ++ "\x7d"

def referenceLine (link : Link) : String :=
  "Ref: " ++ quoted link.source.table ++ "." ++ quoted link.source.column ++ " > " ++
    quoted link.target.table ++ "." ++ quoted link.target.column

def declaredTable (column : Target) : Table :=
  Reader.closeTable column.table [{ name := column.column, type := "integer" }]

/-- Whether a column of the link's source is a foreign key to its target. -/
def Refers (tables : List Table) (link : Link) : Prop :=
  ∃ table ∈ tables, table.name = link.source.table ∧
    ∃ column ∈ table.columns, column.name = link.source.column ∧ column.isForeignKey = true ∧
      column.foreignTable = some link.target.table ∧ column.foreignKey = some link.target.column

instance (tables : List Table) (link : Link) : Decidable (Refers tables link) :=
  inferInstanceAs (Decidable (∃ table ∈ tables, _ ∧ ∃ column ∈ table.columns, _))

theorem toList_quoted (name : String) : (quoted name).toList = inQuotes name := by
  simp [quoted, inQuotes]

theorem toList_referenceLine (link : Link) :
    (referenceLine link).toList = "Ref: ".toList ++ quotedReference link := by
  simp only [referenceLine, quotedReference, quotedPath, String.toList_append, toList_quoted,
    List.append_assoc, List.cons_append]
  rfl

theorem IsName.isLineBreak_inQuotes {name : String} (h : IsName name) :
    ∀ c ∈ inQuotes name, Text.isLineBreak c = false := by
  intro c hc
  rw [inQuotes, List.mem_cons, List.mem_append, List.mem_singleton] at hc
  rcases hc with rfl | hc | rfl
  · decide
  · exact h.unbroken c hc
  · decide

theorem IsName.slash_not_mem_inQuotes {name : String} (h : IsName name) : '/' ∉ inQuotes name := by
  have hname : '/' ∉ name.toList := h.not_mem (by decide)
  simpa [inQuotes] using hname

theorem isLineBreak_quotedPath {target : Target} (htable : IsName target.table)
    (hcolumn : IsName target.column) : ∀ c ∈ quotedPath target, Text.isLineBreak c = false :=
  List.forall_mem_append.mpr ⟨htable.isLineBreak_inQuotes,
    List.forall_mem_cons.mpr ⟨by decide, hcolumn.isLineBreak_inQuotes⟩⟩

theorem Link.IsNamed.isLineBreak_quotedReference {link : Link} (h : link.IsNamed) :
    ∀ c ∈ quotedReference link, Text.isLineBreak c = false := by
  refine List.forall_mem_append.mpr ⟨List.forall_mem_append.mpr ⟨?_, by decide⟩, ?_⟩
  · exact isLineBreak_quotedPath h.sourceTable h.sourceColumn
  · exact isLineBreak_quotedPath h.targetTable h.targetColumn

namespace Reader

variable {reader : Reader}

theorem IsTop.readLine_header (h : reader.IsTop) {name : String} (hname : IsName name) :
    reader.readLine ("Table ".toList ++ (inQuotes name ++ " \x7b".toList))
      = { reader with block := .table name [] } := by
  have hcontent : content ("Table ".toList ++ (inQuotes name ++ " \x7b".toList))
      = "Table ".toList ++ (inQuotes name ++ " \x7b".toList) := by
    refine content_eq_self ?_ ?_ ?_
    · have hslash := hname.slash_not_mem_inQuotes
      simpa using hslash
    · rintro c ⟨rfl⟩
      decide
    · rw [← List.append_assoc, List.getLast?_append]
      rintro c ⟨rfl⟩
      decide
  rw [h.readLine_eq (by rw [hcontent]; exact List.cons_ne_nil _ _), hcontent, readAtTop,
    header?_inQuotes hname]

theorem readLine_column {tables : List Table} {table name : String} {columns : List Column}
    (hname : IsName name) :
    (Reader.mk tables (.table table columns) 0).readLine (inQuotes name ++ " integer".toList)
      = .mk tables (.table table (columns ++ [{ name, type := "integer" }])) 0 := by
  have hcontent : content (inQuotes name ++ " integer".toList)
      = inQuotes name ++ " integer".toList := by
    refine content_eq_self ?_ ?_ ?_
    · have hslash := hname.slash_not_mem_inQuotes
      simpa using hslash
    · rintro c ⟨rfl⟩
      decide
    · rw [List.getLast?_append]
      rintro c ⟨rfl⟩
      decide
  have hopens : opensBlock (inQuotes name ++ " integer".toList) = false := by
    rw [opensBlock, List.getLast?_append]
    rfl
  have hsetting : isTableSetting (inQuotes name ++ " integer".toList) = false := rfl
  have hclose : (inQuotes name ++ " integer".toList == ['}']) = false := rfl
  rw [readLine, hcontent]
  change readInTable _ table columns (inQuotes name ++ " integer".toList) = _
  rw [readInTable, hclose, hopens, hsetting, column?_inQuotes hname]
  rfl

/-- The block of a table is read as the table, whatever stands in its names. -/
theorem IsTop.readText_declaration (h : reader.IsTop) {column : Target}
    (htable : IsName column.table) (hcolumn : IsName column.column) :
    reader.readText (declaration column)
      = reader.withTables (reader.tables ++ [declaredTable column]) := by
  have hheader : ("Table " ++ quoted column.table ++ " \x7b").toList
      = "Table ".toList ++ (inQuotes column.table ++ " \x7b".toList) := by
    simp [toList_quoted]
  have hline : (quoted column.column ++ " integer").toList
      = inQuotes column.column ++ " integer".toList := by
    simp [toList_quoted]
  have hheaderBreaks : ∀ c ∈ ("Table " ++ quoted column.table ++ " \x7b").toList,
      Text.isLineBreak c = false := by
    rw [hheader]
    exact List.forall_mem_append.mpr ⟨by decide,
      List.forall_mem_append.mpr ⟨htable.isLineBreak_inQuotes, by decide⟩⟩
  have hlineBreaks : ∀ c ∈ (quoted column.column ++ " integer").toList,
      Text.isLineBreak c = false := by
    rw [hline]
    exact List.forall_mem_append.mpr ⟨hcolumn.isLineBreak_inQuotes, by decide⟩
  rw [declaration, readText_append, readText_append, readText_line _ hheaderBreaks,
    readText_line _ hlineBreaks, readText_line _ (by decide), hheader, hline,
    h.readLine_header htable]
  obtain ⟨tables, block, skipped⟩ := reader
  obtain ⟨rfl, rfl⟩ : block = .top ∧ skipped = 0 := h
  rw [readLine_column hcolumn]
  exact readLine_close rfl rfl content_brace

end Reader

variable {link : Link} {tables : List Table}

theorem refers_applyReference_iff (hnew : ∀ table ∈ tables, table.name ≠ link.source.table)
    (body : List Char) :
    Refers (applyReference (tables ++ [declaredTable link.source]) body) link
      ↔ link? body = some link := by
  have hdeclared : ∀ table ∈ tables ++ [declaredTable link.source],
      table.name = link.source.table → table = declaredTable link.source := by
    intro table htable hname
    rcases List.mem_append.mp htable with hold | hdeclared
    · exact absurd hname (hnew table hold)
    · exact List.mem_singleton.mp hdeclared
  have hforeign : ∀ column ∈ (declaredTable link.source).columns, column.isForeignKey = false := by
    intro column hcolumn
    rw [List.mem_singleton.mp hcolumn]
  constructor
  · rintro ⟨table, htable, hname, column, hcolumn, hsource, hkey, htargetTable, htargetColumn⟩
    rcases of_mem_applyReference htable with hold | ⟨other, hlink, earlier, hearlier, htest, rfl⟩
    · rw [hdeclared table hold hname] at hcolumn
      rw [hforeign column hcolumn] at hkey
      cases hkey
    · obtain ⟨before, hbefore, rfl⟩ := List.mem_map.mp hcolumn
      rw [hdeclared earlier hearlier hname] at hbefore
      split_ifs at hsource hkey htargetTable htargetColumn with hcolumnTest
      · have htable : other.source.table = link.source.table := htest.symm.trans hname
        have hcolumn : other.source.column = link.source.column :=
          (beq_iff_eq.mp hcolumnTest).symm.trans hsource
        have htarget : other.target = link.target :=
          congrArg₂ Target.mk (Option.some.inj htargetTable) (Option.some.inj htargetColumn)
        rw [hlink]
        exact congrArg some (congrArg₂ Link.mk (congrArg₂ Target.mk htable hcolumn) htarget)
      · rw [hforeign before hbefore] at hkey
        cases hkey
  · intro hlink
    have hnone : ∀ table ∈ tables, (table.name == link.source.table) = false := fun table htable =>
      beq_eq_false_iff_ne.mpr (hnew table htable)
    have happly : applyReference (tables ++ [declaredTable link.source]) body
        = tables ++ [linkTable link (declaredTable link.source)] := by
      rw [applyReference, hlink]
      dsimp only
      rw [changeFirst_append_of_none hnone]
      exact congrArg (tables ++ ·) (if_pos (beq_self_eq_true link.source.table))
    rw [happly]
    refine ⟨linkTable link (declaredTable link.source), by simp, rfl, ?_⟩
    refine ⟨Column.asForeignKey { name := link.source.column, type := "integer" } link.target.table
      (some link.target.column), ?_, rfl, rfl, rfl, rfl⟩
    exact List.mem_map.mpr ⟨_, List.mem_singleton_self _, if_pos (beq_self_eq_true _)⟩

/-- A table is declared under any names in quotes. A reference from its column, with all names in
the same quotes, makes the column foreign to its target exactly if no name holds a blank and no name
of the source a sign. -/
theorem parse_declaration_reference {text : String} (htop : (read text).IsTop)
    (hnamed : link.IsNamed) (hnew : ∀ table ∈ (read text).tables, table.name ≠ link.source.table) :
    parse (text ++ "\n" ++ declaration link.source)
        = .ok ((read text).tables ++ [declaredTable link.source]) ∧
      ∃ tables, parse (text ++ "\n" ++ declaration link.source ++ "\n" ++ referenceLine link)
          = .ok tables ∧ (Refers tables link ↔ link.IsPlain) := by
  have hdeclared : read (text ++ "\n" ++ declaration link.source)
      = (read text).withTables ((read text).tables ++ [declaredTable link.source]) := by
    rw [← readText_read, htop.readText_declaration hnamed.sourceTable hnamed.sourceColumn]
  have hreference :
      (read (text ++ "\n" ++ declaration link.source ++ "\n" ++ referenceLine link)).tables
        = applyReference ((read text).tables ++ [declaredTable link.source])
            (quotedReference link) := by
    have hbreaks : ∀ c ∈ (referenceLine link).toList, Text.isLineBreak c = false := by
      rw [toList_referenceLine]
      exact List.forall_mem_append.mpr ⟨by decide, hnamed.isLineBreak_quotedReference⟩
    have hbehind : ((read text).withTables
        ((read text).tables ++ [declaredTable link.source])).IsTop := htop
    rw [← readText_read, hdeclared, Reader.readText_line _ hbreaks, toList_referenceLine,
      hbehind.readLine_reference, withoutComment_of_not_mem
        (hnamed.not_mem_quotedReference (by decide)), Reader.tables_withTables,
      Reader.tables_withTables]
  refine ⟨parse_eq_ok_iff.mpr ⟨by rw [hdeclared]; rfl, by simp⟩, _,
    parse_eq_ok_iff.mpr ⟨hreference, ?_⟩, ?_⟩
  · refine List.ne_nil_of_length_pos ?_
    rw [length_applyReference]
    simp
  · rw [refers_applyReference_iff hnew, link?_quotedReference_iff hnamed]

def pricesText : String :=
  "Table prices \x7b\n  id integer [pk]\n\x7d"

/-- The names of the source hold other signs than those of a relation. -/
def itemsLink : Link where
  source := { table := "items|2024", column := "price,net" }
  target := { table := "price-list", column := "id" }

theorem parse_declaration_reference_items :
    (read pricesText).IsTop ∧ itemsLink.IsNamed ∧
      (∀ table ∈ (read pricesText).tables, table.name ≠ itemsLink.source.table) ∧
      ∃ tables, parse (pricesText ++ "\n" ++ declaration itemsLink.source ++ "\n" ++
        referenceLine itemsLink) = .ok tables ∧ Refers tables itemsLink := by
  have htop : (read pricesText).IsTop := by decide +kernel
  have hnamed : itemsLink.IsNamed := by decide +kernel
  have hnew : ∀ table ∈ (read pricesText).tables, table.name ≠ itemsLink.source.table := by
    decide +kernel
  have hplain : itemsLink.IsPlain := by decide +kernel
  obtain ⟨-, tables, htables, hrefers⟩ := parse_declaration_reference htop hnamed hnew
  exact ⟨htop, hnamed, hnew, tables, htables, hrefers.mpr hplain⟩

def unitPriceLink : Link where
  source := { table := "order items", column := "unit price" }
  target := { table := "prices", column := "id" }

/-- The table is declared, and the reference does not reach it. -/
theorem parse_declaration_reference_blank :
    (read pricesText).IsTop ∧ unitPriceLink.IsNamed ∧
      (∀ table ∈ (read pricesText).tables, table.name ≠ unitPriceLink.source.table) ∧
      ∃ tables, parse (pricesText ++ "\n" ++ declaration unitPriceLink.source ++ "\n" ++
        referenceLine unitPriceLink) = .ok tables ∧
        declaredTable unitPriceLink.source ∈ tables ∧ ¬ Refers tables unitPriceLink := by
  refine ⟨by decide +kernel, by decide +kernel, by decide +kernel,
    (read pricesText).tables ++ [declaredTable unitPriceLink.source], ?_, by decide +kernel,
    by decide +kernel⟩
  decide +kernel

end RelSchema.Dbml
