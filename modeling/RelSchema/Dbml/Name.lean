import RelSchema.Naming.Quote

/-!
Names of tables and columns: parts in quotes or bare, with dots between them.
-/
namespace RelSchema.Dbml

/-- The text behind a run in the given quotes with something inside. -/
def dropQuoted? (quote : Char) : List Char → Option (List Char)
  | [] => none
  | c :: rest =>
    if c == quote then
      match Text.cutAt? quote rest with
      | some ([], _) | none => none
      | some (_, tail) => some tail
    else none

def isBareChar (c : Char) : Bool :=
  !Text.isBlank c && c != '{' && c != '['

/-- The characters of a bare part in front of a dot. -/
def isPartChar (c : Char) : Bool :=
  isBareChar c && c != '"' && c != '\x60' && c != '.'

def dropBarePart? (s : List Char) : Option (List Char) :=
  if (s.takeWhile isPartChar).isEmpty then none else some (s.dropWhile isPartChar)

/-- The text behind a part and the dot after it. -/
def dropPart? (s : List Char) : Option (List Char) :=
  match dropQuoted? '"' s <|> dropQuoted? '\x60' s <|> dropBarePart? s with
  | some ('.' :: rest) => some rest
  | _ => none

/-- The texts that may be left behind the last part of a name, the preferred one first. A quoted
part may also be read as the start of a bare one. -/
def afterLastPart (s : List Char) : List (List Char) :=
  (dropQuoted? '"' s).toList ++ (dropQuoted? '\x60' s).toList ++
    if (s.takeWhile isBareChar).isEmpty then [] else [s.dropWhile isBareChar]

theorem length_lt_of_dropQuoted? {quote : Char} {s rest : List Char}
    (h : dropQuoted? quote s = some rest) : rest.length < s.length := by
  cases s with
  | nil => simp [dropQuoted?] at h
  | cons c s =>
    simp only [dropQuoted?] at h
    split at h
    · split at h
      · cases h
      · cases h
      · next hcut =>
        cases h
        have hlt := Text.length_snd_lt_of_cutWhere? hcut
        simp only [List.length_cons] at hlt ⊢
        omega
    · cases h

theorem length_le_of_dropBarePart? {s rest : List Char} (h : dropBarePart? s = some rest) :
    rest.length ≤ s.length := by
  simp only [dropBarePart?] at h
  split at h
  · cases h
  · cases h
    exact (List.dropWhile_suffix _).length_le

theorem length_lt_of_dropPart? {s rest : List Char} (h : dropPart? s = some rest) :
    rest.length < s.length := by
  simp only [dropPart?] at h
  split at h
  · next tail hfound =>
    cases h
    have hle : ('.' :: rest).length ≤ s.length := by
      simp only [Option.orElse_eq_orElse, Option.orElse_eq_or, Option.or_eq_some_iff] at hfound
      rcases hfound with h | ⟨_, h | ⟨_, h⟩⟩
      · exact Nat.le_of_lt (length_lt_of_dropQuoted? h)
      · exact Nat.le_of_lt (length_lt_of_dropQuoted? h)
      · exact length_le_of_dropBarePart? h
    simp only [List.length_cons] at hle
    omega
  · cases h

/-- The texts that may be left behind a name, the preferred one first: a name has as many parts as
possible. -/
def afterName (s : List Char) : List (List Char) :=
  match _h : dropPart? s with
  | some rest => afterName rest ++ afterLastPart s
  | none => afterLastPart s
termination_by s.length
decreasing_by exact length_lt_of_dropPart? ‹_›

/-- The ways to read a name in front of a text, the preferred one first. -/
def names (s : List Char) : List (List Char × List Char) :=
  (afterName s).map fun rest => (s.take (s.length - rest.length), rest)

/-- The last part of a table name, without its quotes. -/
def tableName (name : List Char) : String :=
  let bare :=
    Naming.unquoteIdentifier (.ofList (((Text.cutAtLast? '.' name).map (·.2)).getD name))
  match name.getLast? with
  | some quote =>
    if quote == '"' || quote == '\x60' then
      match Text.cutAtLast? quote name.dropLast with
      | some (_, inner) => .ofList inner
      | none => bare
    else bare
  | none => bare

/-- A column of a table that a reference names. -/
structure Target where
  table : String
  column : String
  deriving DecidableEq, Repr

/-- The target that a dotted path ends in; none of its parts may be empty. -/
def target? (path : List Char) : Option Target :=
  let path := Text.dropEndWhile (· == ',') (Text.trim path)
  let parts := (Text.splitAt '.' path).map fun part => Naming.unquoteIdentifier (.ofList part)
  match parts.reverse with
  | column :: table :: _ => if parts.contains "" then none else some { table, column }
  | _ => none

end RelSchema.Dbml
