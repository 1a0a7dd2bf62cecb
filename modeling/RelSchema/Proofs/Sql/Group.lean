import RelSchema.Proofs.Sql.Token
import RelSchema.Sql.Group

/-!
# Groups of tokens and groups of text

The parenthesis that closes a group of tokens is the one that closes the text of the group: quotes
hide parentheses from both scans alike.
-/

namespace RelSchema.Sql

open Pending

namespace Level

theorem next?_code {c : Char} (hquote : isQuote c = false) (hopen : c ≠ '(') (hclose : c ≠ ')')
    (depth : Nat) : next? ⟨none, depth⟩ c = some ⟨none, depth⟩ := by
  simp [next?, quoteAfter_of_not_isQuote hquote, hopen, hclose]

theorem next?_quote {quote : Char} (hquote : isQuote quote = true) (depth : Nat) :
    next? ⟨none, depth⟩ quote = some ⟨some quote, depth⟩ := by
  simp [next?, quoteAfter_of_isQuote hquote]

theorem next?_quoted (quote : Char) (depth : Nat) (c : Char) :
    next? ⟨some quote, depth⟩ c = some ⟨quoteAfter quotes (some quote) c, depth⟩ := rfl

theorem next?_of_isWordPart {c : Char} (hc : isWordPart c = true) (depth : Nat) :
    next? ⟨none, depth⟩ c = some ⟨none, depth⟩ := by
  obtain ⟨hquote, hopen, hclose, _⟩ := isWordPart_iff.mp hc
  exact next?_code hquote hopen hclose depth

theorem next?_of_isSeparator {c : Char} (hc : Text.isSeparator c = true) (depth : Nat) :
    next? ⟨none, depth⟩ c = some ⟨none, depth⟩ := by
  obtain ⟨hquote, hopen, hclose⟩ := not_isQuote_of_isSeparator hc
  exact next?_code hquote hopen hclose depth

theorem after?_of_all {text : List Char} {depth : Nat}
    (h : ∀ c ∈ text, next? ⟨none, depth⟩ c = some ⟨none, depth⟩) :
    after? ⟨none, depth⟩ text = some ⟨none, depth⟩ := by
  induction text with
  | nil => rfl
  | cons c text ih =>
      rw [after?_cons, h c List.mem_cons_self, Option.bind_some]
      exact ih fun d hd => h d (List.mem_cons_of_mem c hd)

theorem after?_gap {gap : List Char} (hgap : ∀ c ∈ gap, Text.isSeparator c = true) (depth : Nat) :
    after? ⟨none, depth⟩ gap = some ⟨none, depth⟩ :=
  after?_of_all fun c hc => next?_of_isSeparator (hgap c hc) depth

theorem after?_word {w : List Char} (hw : ∀ c ∈ w, isWordPart c = true) (depth : Nat) :
    after? ⟨none, depth⟩ w = some ⟨none, depth⟩ :=
  after?_of_all fun c hc => next?_of_isWordPart (hw c hc) depth

theorem after?_doubled {quote : Char} (hquote : isQuote quote = true) (depth : Nat)
    (s : List Char) :
    after? ⟨some quote, depth⟩ (Naming.doubled quote s) = some ⟨some quote, depth⟩ := by
  induction s with
  | nil => rfl
  | cons c s ih =>
      by_cases hc : c = quote
      · subst hc
        rw [doubled_cons_self, after?_cons, next?_quoted, quoteAfter_self, Option.bind_some,
          after?_cons, next?_quote hquote, Option.bind_some, ih]
      · rw [doubled_cons_of_ne hc, after?_cons, next?_quoted, quoteAfter_of_ne hc,
          Option.bind_some, ih]

theorem after?_enclosed {quote : Char} (hquote : isQuote quote = true) (depth : Nat)
    (s : List Char) :
    after? ⟨none, depth⟩ (Naming.enclosed quote s) = some ⟨none, depth⟩ := by
  rw [Naming.enclosed, List.cons_append, after?_cons, next?_quote hquote, Option.bind_some,
    after?_append_of_eq (after?_doubled hquote depth s), after?_cons, next?_quoted,
    quoteAfter_self]
  rfl

end Level

theorem Balanced.of_isSeparator {gap : List Char} (hgap : ∀ c ∈ gap, Text.isSeparator c = true) :
    Balanced gap :=
  Level.after?_gap hgap 0

theorem Balanced.of_isWordPart {w : List Char} (hw : ∀ c ∈ w, isWordPart c = true) : Balanced w :=
  Level.after?_word hw 0

theorem Balanced.of_code {text : List Char}
    (hcode : ∀ c ∈ text, isQuote c = false ∧ c ≠ '(' ∧ c ≠ ')') : Balanced text :=
  Level.after?_of_all fun c hc =>
    Level.next?_code (hcode c hc).1 (hcode c hc).2.1 (hcode c hc).2.2 0

/-- A token is a parenthesis, or it leaves the depth as it is; only where the text cuts it off does
it leave its quote open. -/
theorem Lexeme.after?_cases {token : Token} {lexeme rest : List Char}
    (h : Lexeme token lexeme rest) :
    (token.kind = .opening ∧ lexeme = ['(']) ∨
      (token = parenToken .closing ')' token.start ∧ lexeme = [')']) ∨
      ((token.kind ≠ .opening ∧ token.kind ≠ .closing) ∧
        ∃ quote?, (quote? = none ∨ rest = []) ∧
          ∀ depth, Level.after? ⟨none, depth⟩ lexeme = some ⟨quote?, depth⟩) := by
  have kind_ne : ∀ (quote : Char) (start : Nat) (content : List Char) (stop : Nat),
      (runToken quote start content stop).kind ≠ .opening ∧
        (runToken quote start content stop).kind ≠ .closing := fun quote start content stop =>
    ⟨runToken_kind_ne (by decide) (by decide) quote start content stop,
      runToken_kind_ne (by decide) (by decide) quote start content stop⟩
  cases h with
  | word hne hw hend =>
      refine Or.inr (Or.inr ⟨⟨TokenKind.noConfusion, TokenKind.noConfusion⟩, none, Or.inl rfl, ?_⟩)
      exact Level.after?_word hw
  | opening => exact Or.inl ⟨rfl, rfl⟩
  | closing => exact Or.inr (Or.inl ⟨rfl, rfl⟩)
  | quoted hquote hend =>
      refine Or.inr (Or.inr ⟨kind_ne _ _ _ _, none, Or.inl rfl, ?_⟩)
      exact fun depth => Level.after?_enclosed hquote depth _
  | @cut quote start s hquote =>
      refine Or.inr (Or.inr ⟨kind_ne _ _ _ _, some quote, Or.inr rfl, fun depth => ?_⟩)
      rw [Level.after?_cons, Level.next?_quote hquote, Option.bind_some,
        Level.after?_doubled hquote]

/-- A group with a further token in front of its inner ones. -/
def Group.cons (token : Token) (group : Group) : Group :=
  { group with inner := token :: group.inner }

theorem groupFrom?_opening {token : Token} (hopen : token.kind = .opening) (depth : Nat)
    (tokens : List Token) :
    groupFrom? depth (token :: tokens) = (groupFrom? (depth + 1) tokens).map (Group.cons token) := by
  simp only [groupFrom?, hopen]
  rfl

theorem groupFrom?_closing {token : Token} (hclose : token.kind = .closing) (depth : Nat)
    (tokens : List Token) :
    groupFrom? (depth + 1) (token :: tokens) = (groupFrom? depth tokens).map (Group.cons token) := by
  simp only [groupFrom?, hclose]
  rfl

theorem groupFrom?_other {token : Token} (hopen : token.kind ≠ .opening)
    (hclose : token.kind ≠ .closing) (depth : Nat) (tokens : List Token) :
    groupFrom? depth (token :: tokens) = (groupFrom? depth tokens).map (Group.cons token) := by
  cases hkind : token.kind with
  | opening => exact absurd hkind hopen
  | closing => exact absurd hkind hclose
  | word | quotedName | string =>
      simp only [groupFrom?, hkind]
      rfl

theorem group?_opening {token : Token} (hopen : token.kind = .opening) (tokens : List Token) :
    group? (token :: tokens) = groupFrom? 0 tokens :=
  if_pos (beq_iff_eq.mpr hopen)

theorem group?_other {token : Token} (hopen : token.kind ≠ .opening) (tokens : List Token) :
    group? (token :: tokens) = none :=
  if_neg fun h => hopen (beq_iff_eq.mp h)

/-- Whether the tokens of a text are closed where the text is, with the tokens of what follows behind
them. -/
def ClosesAlike (position : Nat) (s : List Char) (close? : Option Nat) (group? : Option Group) : Prop :=
  match close? with
  | none => group? = none
  | some close => ∃ a b inner, s = a ++ ')' :: b ∧ close = position + a.length ∧
      group? = some ⟨inner, parenToken .closing ')' close, tokensFrom (close + 1) .nothing b⟩

theorem ClosesAlike.cons {position stop : Nat} {s : List Char} {close? : Option Nat}
    {group? : Option Group} (h : ClosesAlike stop s close? group?) {front : List Char}
    (hstop : stop = position + front.length) (token : Token) :
    ClosesAlike position (front ++ s) close? (group?.map (Group.cons token)) := by
  cases close? with
  | none =>
      obtain rfl := h
      exact rfl
  | some close =>
      obtain ⟨a, b, inner, rfl, rfl, rfl⟩ := h
      refine ⟨front ++ a, b, token :: inner, (List.append_assoc front a _).symm, ?_, rfl⟩
      rw [hstop, List.length_append, Nat.add_assoc]

/-- The group of the tokens is closed where the text is, and behind it stand the tokens of what
follows. -/
theorem groupFrom?_tokensFrom (depth position : Nat) (s : List Char) :
    ClosesAlike position s (Brackets.closeFrom {} none depth position s)
      (groupFrom? depth (tokensFrom position .nothing s)) := by
  generalize htokens : tokensFrom position .nothing s = tokens
  induction tokens generalizing depth position s with
  | nil =>
      have hall := isSeparator_of_tokensFrom_eq_nil htokens
      have hclose := Brackets.closeFrom_append (Level.after?_gap hall depth) position []
      rw [List.append_nil] at hclose
      rw [hclose]
      rfl
  | cons token tokens ih =>
      obtain ⟨gap, lexeme, rest, rfl, hgap, hlexeme, hstart, hstop, hrest⟩ := exists_lexeme htokens
      rw [Brackets.closeFrom_append (Level.after?_gap hgap depth), ← hstart]
      have hfront : token.stop = position + (gap ++ lexeme).length := by
        rw [hstop, hstart, List.length_append, Nat.add_assoc]
      have hpass : ∀ next, ClosesAlike position (gap ++ (lexeme ++ rest))
          (Brackets.closeFrom {} none next token.stop rest)
          ((groupFrom? next tokens).map (Group.cons token)) := by
        intro next
        rw [← List.append_assoc]
        exact (ih next token.stop rest hrest).cons hfront token
      rcases hlexeme.after?_cases with ⟨hkind, rfl⟩ | ⟨htoken, rfl⟩ |
        ⟨⟨hopen, hclose⟩, quote?, hquote, hlevel⟩
      · rw [groupFrom?_opening hkind]
        rw [hstop] at hpass
        exact hpass (depth + 1)
      · have hkind : token.kind = .closing := by rw [htoken]; rfl
        cases depth with
        | zero =>
            refine ⟨gap, rest, [], rfl, hstart, ?_⟩
            simp only [groupFrom?, hkind]
            rw [← htoken, ← hrest, hstop]
            rfl
        | succ depth =>
            rw [groupFrom?_closing hkind]
            rw [hstop] at hpass
            exact hpass depth
      · rw [groupFrom?_other hopen hclose]
        cases quote? with
        | none =>
            rw [Brackets.closeFrom_append (hlevel depth), ← hstop]
            exact hpass depth
        | some quote =>
            -- the text ends inside the quotes
            have hnil : rest = [] := by simpa using hquote
            subst hnil
            rw [Brackets.closeFrom_append (hlevel depth)]
            exact hpass depth

def Group.map (f : Token → Token) (group : Group) : Group where
  inner := group.inner.map f
  close := f group.close
  rest := group.rest.map f

/-- Where parentheses stay what they are, so do groups. -/
theorem groupFrom?_map {f : Token → Token}
    (hopening : ∀ token, (f token).kind = .opening ↔ token.kind = .opening)
    (hclosing : ∀ token, (f token).kind = .closing ↔ token.kind = .closing) (depth : Nat)
    (tokens : List Token) :
    groupFrom? depth (tokens.map f) = (groupFrom? depth tokens).map (Group.map f) := by
  induction tokens generalizing depth with
  | nil => rfl
  | cons token tokens ih =>
      have hcons : ∀ next, ((groupFrom? next tokens).map (Group.map f)).map (Group.cons (f token))
          = ((groupFrom? next tokens).map (Group.cons token)).map (Group.map f) := by
        intro next
        cases groupFrom? next tokens <;> rfl
      rw [List.map_cons]
      by_cases hopen : token.kind = .opening
      · rw [groupFrom?_opening ((hopening token).mpr hopen), groupFrom?_opening hopen, ih, hcons]
      by_cases hclose : token.kind = .closing
      · have hclose' := (hclosing token).mpr hclose
        cases depth with
        | zero =>
            simp only [groupFrom?, hclose, hclose', Option.map_some, Group.map, List.map_nil]
        | succ depth =>
            rw [groupFrom?_closing hclose', groupFrom?_closing hclose, ih, hcons]
      · rw [groupFrom?_other (mt (hopening token).mp hopen) (mt (hclosing token).mp hclose),
          groupFrom?_other hopen hclose, ih, hcons]

/-- A change of tokens that keeps their kinds, and the values of all but strings. -/
structure Token.Keeps (f : Token → Token) : Prop where
  kind (token : Token) : (f token).kind = token.kind
  value {token : Token} (h : token.kind ≠ .string) : (f token).value = token.value

theorem Token.keeps_shift (n : Nat) : Token.Keeps (Token.shift n) :=
  ⟨fun _ => rfl, fun _ => rfl⟩

namespace Token.Keeps

variable {f : Token → Token}

theorem upper (hf : Token.Keeps f) {token : Token} (hkind : token.kind ≠ .string) :
    (f token).upper = token.upper := by
  rw [Token.upper, hf.value hkind]
  rfl

theorem isKeyword (hf : Token.Keeps f) (token : Token) (words : List String) :
    (f token).isKeyword words = token.isKeyword words := by
  unfold Token.isKeyword
  by_cases hword : token.kind = .word
  · rw [hf.kind, hf.upper (by rw [hword]; decide)]
  · have hkind : (token.kind == .word) = false := beq_eq_false_iff_ne.mpr hword
    rw [hf.kind, hkind, Bool.false_and, Bool.false_and]

theorem isName (hf : Token.Keeps f) (token : Token) : (f token).isName = token.isName := by
  rw [Token.isName, hf.kind]
  rfl

theorem group? (hf : Token.Keeps f) (tokens : List Token) :
    Sql.group? (tokens.map f) = (Sql.group? tokens).map (Group.map f) := by
  cases tokens with
  | nil => rfl
  | cons token tokens =>
      have hkind : ∀ kind, (f token).kind = kind ↔ token.kind = kind := by
        intro kind
        rw [hf.kind]
      rw [List.map_cons]
      by_cases hopen : token.kind = .opening
      · rw [group?_opening ((hkind _).mpr hopen), group?_opening hopen]
        apply groupFrom?_map
        · exact fun token => by rw [hf.kind]
        · exact fun token => by rw [hf.kind]
      · rw [group?_other (mt (hkind _).mp hopen), group?_other hopen]
        rfl

theorem namesFrom (hf : Token.Keeps f) (depth : Nat) (tokens : List Token) :
    Sql.namesFrom depth (tokens.map f) = Sql.namesFrom depth tokens := by
  induction tokens generalizing depth with
  | nil => rfl
  | cons token tokens ih =>
      unfold Sql.namesFrom
      rw [List.map_cons]
      cases hkind : token.kind with
      | opening | closing | string => simp only [hf.kind, hkind, ih]
      | word | quotedName =>
          have hvalue : (f token).value = token.value := hf.value (by rw [hkind]; decide)
          simp only [hf.kind, hkind, hvalue, ih]

theorem listedNames (hf : Token.Keeps f) (tokens : List Token) :
    Sql.listedNames (tokens.map f) = Sql.listedNames tokens := by
  rw [Sql.listedNames, Sql.listedNames, hf.group?]
  cases Sql.group? tokens with
  | none => rfl
  | some group => exact hf.namesFrom 0 group.inner

end Token.Keeps

end RelSchema.Sql
