import RelSchema.Sql.Token
import RelSchema.Naming.Quote

/-!
Parenthesized groups of tokens and the names listed in them.
-/
namespace RelSchema.Sql

/-- A group of tokens: those inside it, its closing parenthesis, and the tokens behind it. -/
structure Group where
  inner : List Token
  close : Token
  rest : List Token

/-- The group whose opening parenthesis stands in front of the tokens, with `depth` further ones
open. -/
def groupFrom? (depth : Nat) : List Token → Option Group
  | [] => none
  | token :: tokens =>
    let keep (group : Group) : Group := { group with inner := token :: group.inner }
    match token.kind, depth with
    | .closing, 0 => some { inner := [], close := token, rest := tokens }
    | .closing, depth + 1 => (groupFrom? depth tokens).map keep
    | .opening, depth => (groupFrom? (depth + 1) tokens).map keep
    | _, depth => (groupFrom? depth tokens).map keep

def group? : List Token → Option Group
  | [] => none
  | token :: tokens => if token.kind == .opening then groupFrom? 0 tokens else none

theorem length_rest_lt_of_groupFrom? {depth : Nat} {tokens : List Token} {group : Group}
    (h : groupFrom? depth tokens = some group) : group.rest.length < tokens.length := by
  induction tokens generalizing depth group with
  | nil => simp [groupFrom?] at h
  | cons token tokens ih =>
    simp only [groupFrom?] at h
    split at h
    · cases h
      simp
    all_goals
      obtain ⟨found, hfound, hkeep⟩ := Option.map_eq_some_iff.1 h
      subst hkeep
      have := ih hfound
      simp only [List.length_cons]
      omega

theorem length_rest_lt_of_group? {tokens : List Token} {group : Group}
    (h : group? tokens = some group) : group.rest.length < tokens.length := by
  cases tokens with
  | nil => simp [group?] at h
  | cons token tokens =>
    simp only [group?] at h
    split at h
    · exact Nat.lt_succ_of_lt (length_rest_lt_of_groupFrom? h)
    · cases h

/-- The names in a bare word: the parts between its commas. -/
def wordNames (word : String) : List String :=
  ((Text.splitAt ',' word.toList).filter fun part => !(Text.trim part).isEmpty).map fun part =>
    Naming.unquoteIdentifier (.ofList part)

/-- The names among the tokens of a group; inner groups, such as the length of a key part, hold
none. -/
def namesFrom (depth : Nat) : List Token → List String
  | [] => []
  | token :: tokens =>
    match token.kind with
    | .opening => namesFrom (depth + 1) tokens
    | .closing => namesFrom (depth - 1) tokens
    | .quotedName => (if depth == 0 then [token.value] else []) ++ namesFrom depth tokens
    | .word => (if depth == 0 then wordNames token.value else []) ++ namesFrom depth tokens
    | .string => namesFrom depth tokens

/-- The names listed in the group that the first token opens. -/
def listedNames (tokens : List Token) : List String :=
  ((group? tokens).map fun group => namesFrom 0 group.inner).getD []

end RelSchema.Sql
