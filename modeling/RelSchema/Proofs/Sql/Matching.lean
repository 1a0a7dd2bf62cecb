import RelSchema.Proofs.Sql.Layout
import RelSchema.Proofs.Sql.Sequence

/-!
# Matching parentheses in texts and in tokens

Parentheses are matched in two ways: in a text, by the positions of its characters, and among the
tokens of a text, by their indices. The search in a text is first compared with what it is to find,
said by counting: the first opening parenthesis outside quotes, and the least index behind it up to
which as many parentheses are closed outside quotes as are opened. Main statement: the search finds
this pair if there is one, and where the first opening token is matched, its partner stands at the
position that the search finds.
-/

namespace RelSchema.Sql

open Pending
open Text (openQuote)

/-- Whether as many parentheses are closed outside quotes as are opened, between two indices of a
text that are both included. -/
def IsEven (text : List Char) (first last : Nat) : Prop :=
  (codeOf none (slice text first (last + 1))).count '('
    = (codeOf none (slice text first (last + 1))).count ')'

/-- Whether the first opening parenthesis outside quotes stands at the index. -/
structure IsFirstOpening (text : List Char) (opened : Nat) : Prop where
  getElem?_eq : text[opened]? = some '('
  openQuote_eq : openQuote quotes none (text.take opened) = none
  first : '(' ∉ codeOf none (text.take opened)

/-- Whether the first opening parenthesis outside quotes stands at the one index, and the other one
is the least behind it up to which as many parentheses are closed as opened. -/
structure IsFirstPair (text : List Char) (opened closed : Nat) : Prop extends
    IsFirstOpening text opened where
  lt_closed : opened < closed
  closed_lt : closed < text.length
  isEven : IsEven text opened closed
  least : ∀ i, opened < i → i < closed → ¬ IsEven text opened i

/-- A character outside quotes is one of the characters of code in front of any index behind it. -/
theorem mem_codeOf_take {text : List Char} {i stop : Nat} {c : Char} (hget : text[i]? = some c)
    (hquote : openQuote quotes none (text.take i) = none) (hc : isQuote c = false) (hlt : i < stop) :
    c ∈ codeOf none (text.take stop) := by
  have hfront : (text.take stop)[i]? = some c := by rw [List.getElem?_take_of_lt hlt, hget]
  obtain ⟨hi, hget'⟩ := List.getElem?_eq_some_iff.mp hfront
  have hsplit : text.take stop = text.take i ++ c :: (text.take stop).drop (i + 1) :=
    calc text.take stop
        = (text.take stop).take i ++ (text.take stop).drop i := (List.take_append_drop i _).symm
      _ = text.take i ++ c :: (text.take stop).drop (i + 1) := by
          rw [List.take_take, Nat.min_eq_left hlt.le, List.drop_eq_getElem_cons hi, hget']
  exact (mem_codeOf_iff hc).mpr ⟨text.take i, _, hsplit, hquote⟩

theorem IsFirstOpening.unique {text : List Char} {i j : Nat} (hi : IsFirstOpening text i)
    (hj : IsFirstOpening text j) : i = j := by
  have hquote : isQuote '(' = false := by decide
  rcases Nat.lt_trichotomy i j with hlt | heq | hlt
  · exact absurd (mem_codeOf_take hi.getElem?_eq hi.openQuote_eq hquote hlt) hj.first
  · exact heq
  · exact absurd (mem_codeOf_take hj.getElem?_eq hj.openQuote_eq hquote hlt) hi.first

theorem IsFirstPair.unique {text : List Char} {opened closed opened' closed' : Nat}
    (h : IsFirstPair text opened closed) (h' : IsFirstPair text opened' closed') :
    opened = opened' ∧ closed = closed' := by
  obtain rfl := h.toIsFirstOpening.unique h'.toIsFirstOpening
  refine ⟨rfl, ?_⟩
  rcases Nat.lt_trichotomy closed closed' with hlt | heq | hlt
  · exact absurd h.isEven (h'.least closed h.lt_closed hlt)
  · exact heq
  · exact absurd h'.isEven (h.least closed' h'.lt_closed hlt)

theorem isFirstOpening_append {before : List Char} (hquote : openQuote quotes none before = none)
    (hfirst : '(' ∉ codeOf none before) (rest : List Char) :
    IsFirstOpening (before ++ '(' :: rest) before.length where
  getElem?_eq := by simp
  openQuote_eq := by rwa [List.take_left]
  first := by rwa [List.take_left]

theorem slice_opening (before rest : List Char) (k : Nat) :
    slice (before ++ '(' :: rest) before.length (before.length + k + 1) = '(' :: rest.take k := by
  have hcount : before.length + k + 1 - before.length = k + 1 := by omega
  rw [slice, List.drop_left, hcount, List.take_succ_cons]

theorem Level.exists_after?_take {level last : Level} {text : List Char}
    (h : level.after? text = some last) (k : Nat) :
    ∃ mid, level.after? (text.take k) = some mid := by
  rw [← List.take_append_drop k text] at h
  obtain ⟨mid, hmid, -⟩ := after?_append_eq_some_iff.mp h
  exact ⟨mid, hmid⟩

/-- Behind an opening parenthesis, the counts differ as long as it stays open. -/
theorem not_isEven_of_after? (before : List Char) {rest : List Char} {k : Nat} {last : Level}
    (h : Level.after? {} (rest.take k) = some last) :
    ¬ IsEven (before ++ '(' :: rest) before.length (before.length + k) := by
  have hcount := Level.count_codeOf h
  unfold IsEven
  rw [slice_opening, codeOf_cons_of_code (by decide), List.count_cons_self,
    List.count_cons_of_ne (by decide)]
  simp only at hcount
  omega

/-- Behind a balanced text, the closing parenthesis makes the counts equal. -/
theorem isEven_of_balanced (before : List Char) {inner : List Char} (hinner : Balanced inner)
    (after : List Char) :
    IsEven (before ++ '(' :: (inner ++ ')' :: after)) before.length
      (before.length + (inner.length + 1)) := by
  have hcount := Level.count_codeOf hinner
  have htake : (inner ++ ')' :: after).take (inner.length + 1) = inner ++ [')'] := by
    rw [List.take_length_add_append]
    rfl
  unfold IsEven
  rw [slice_opening, htake, codeOf_cons_of_code (by decide), codeOf_append, hinner.openQuote_eq,
    codeOf_cons_of_code (by decide), List.count_cons_self, List.count_cons_of_ne (by decide),
    List.count_append, List.count_append]
  simp only [Nat.zero_add] at hcount
  rw [hcount]
  rfl

namespace Brackets

/-- What the search finds is the first pair. -/
theorem isFirstPair_of_find? {text : List Char} {opened closed : Nat}
    (h : find? {} text = some (opened, closed)) : IsFirstPair text opened closed := by
  unfold find? at h
  rcases findFrom_cases none 0 text with ⟨hnone, -⟩ | ⟨before, rest, rfl, hquote, hfirst, hfind⟩
  · rw [hnone] at h
    cases h
  rw [hfind] at h
  obtain ⟨close, hclose, hpair⟩ := Option.map_eq_some_iff.mp h
  obtain ⟨inner, after, rfl, hinner, rfl⟩ := exists_balanced_of_closeFrom hclose
  obtain ⟨rfl, rfl⟩ : before.length = opened ∧ before.length + (inner.length + 1) = closed := by
    simp only [Prod.mk.injEq] at hpair
    omega
  refine ⟨isFirstOpening_append hquote hfirst _, by omega, ?_,
    isEven_of_balanced before hinner after, ?_⟩
  · simp only [List.length_append, List.length_cons]
    omega
  · intro i hlow hhigh
    obtain ⟨k, rfl⟩ : ∃ k, i = before.length + k := ⟨i - before.length, by omega⟩
    -- a part of a balanced text leaves the parenthesis in front of it open
    have htake : (inner ++ ')' :: after).take k = inner.take k :=
      List.take_append_of_le_length (by omega)
    obtain ⟨mid, hmid⟩ := Level.exists_after?_take hinner k
    exact not_isEven_of_after? before (by rw [htake]; exact hmid)

/-- The search fails only on a text without a pair. -/
theorem not_isFirstPair_of_find? {text : List Char} (h : find? {} text = none)
    (opened closed : Nat) : ¬ IsFirstPair text opened closed := by
  intro hpair
  unfold find? at h
  rcases findFrom_cases none 0 text with ⟨-, hnone⟩ | ⟨before, rest, rfl, hquote, hfirst, hfind⟩
  · have hlt : opened < text.length := hpair.lt_closed.trans hpair.closed_lt
    have hmem := mem_codeOf_take hpair.getElem?_eq hpair.openQuote_eq (by decide) hlt
    rw [List.take_length] at hmem
    exact hnone hmem
  · rw [hfind, Option.map_eq_none_iff] at h
    obtain ⟨last, hlast⟩ := exists_after?_of_closeFrom h
    obtain rfl : opened = before.length :=
      hpair.toIsFirstOpening.unique (isFirstOpening_append hquote hfirst rest)
    obtain ⟨k, rfl⟩ : ∃ k, closed = before.length + k :=
      ⟨closed - before.length, by have := hpair.lt_closed; omega⟩
    obtain ⟨mid, hmid⟩ := Level.exists_after?_take hlast k
    exact not_isEven_of_after? before hmid hpair.isEven

theorem find?_eq_some_iff {text : List Char} {opened closed : Nat} :
    find? {} text = some (opened, closed) ↔ IsFirstPair text opened closed := by
  refine ⟨isFirstPair_of_find?, fun hpair => ?_⟩
  cases hfind : find? {} text with
  | none => exact absurd hpair (not_isFirstPair_of_find? hfind opened closed)
  | some found =>
      obtain ⟨hopened, hclosed⟩ := (isFirstPair_of_find? hfind).unique hpair
      exact congrArg some (Prod.ext hopened hclosed)

theorem find?_eq_none_iff {text : List Char} :
    find? {} text = none ↔ ¬ ∃ opened closed, IsFirstPair text opened closed := by
  refine ⟨fun h => fun ⟨opened, closed, hpair⟩ => not_isFirstPair_of_find? h opened closed hpair, ?_⟩
  intro h
  rw [Option.eq_none_iff_forall_ne_some]
  rintro ⟨opened, closed⟩ hfind
  exact h ⟨opened, closed, isFirstPair_of_find? hfind⟩

end Brackets

/-- The closing token stands behind the inner tokens of its group. -/
theorem closingFrom_eq (depth index : Nat) (tokens : List Token) :
    closingFrom (depth + 1) index tokens
      = (groupFrom? depth tokens).map fun group => index + group.inner.length := by
  induction tokens generalizing depth index with
  | nil => rfl
  | cons token tokens ih =>
      have hcons : ∀ next, (groupFrom? next tokens).map (fun group => index + 1 + group.inner.length)
          = ((groupFrom? next tokens).map (Group.cons token)).map
            fun group => index + group.inner.length := by
        intro next
        rw [Option.map_map]
        refine congrArg (Option.map · _) (funext fun group => ?_)
        simp only [Function.comp, Group.cons, List.length_cons]
        omega
      by_cases hopen : token.kind = .opening
      · have hdepth : (depth : Int) + 1 + 1 = ((depth + 1 : Nat) : Int) + 1 := by omega
        rw [groupFrom?_opening hopen, ← hcons, ← ih (depth + 1) (index + 1), ← hdepth]
        simp only [closingFrom, hopen]
      by_cases hclose : token.kind = .closing
      · cases depth with
        | zero =>
            simp only [closingFrom, groupFrom?, hclose]
            rfl
        | succ depth =>
            have hdepth : (((depth + 1 : Nat) : Int) + 1 == 1) = false := by
              rw [beq_eq_false_iff_ne]
              omega
            have hnext : ((depth + 1 : Nat) : Int) + 1 - 1 = (depth : Int) + 1 := by omega
            rw [groupFrom?_closing hclose, ← hcons, ← ih depth (index + 1), ← hnext]
            simp only [closingFrom, hclose, hdepth]
            rfl
      · rw [groupFrom?_other hopen hclose, ← hcons, ← ih depth (index + 1)]
        rw [closingFrom]
        split
        · exact absurd ‹_› hopen
        · exact absurd ‹_› hclose
        · rfl

theorem eq_append_of_groupFrom? {depth : Nat} {tokens : List Token} {group : Group}
    (h : groupFrom? depth tokens = some group) :
    tokens = group.inner ++ group.close :: group.rest := by
  induction tokens generalizing depth group with
  | nil => cases h
  | cons token tokens ih =>
      have hcons : ∀ next, (groupFrom? next tokens).map (Group.cons token) = some group →
          token :: tokens = group.inner ++ group.close :: group.rest := by
        intro next hnext
        obtain ⟨found, hfound, rfl⟩ := Option.map_eq_some_iff.mp hnext
        exact congrArg (token :: ·) (ih hfound)
      by_cases hopen : token.kind = .opening
      · exact hcons _ (groupFrom?_opening hopen depth tokens ▸ h)
      by_cases hclose : token.kind = .closing
      · cases depth with
        | zero =>
            simp only [groupFrom?, hclose] at h
            cases h
            rfl
        | succ depth => exact hcons _ (groupFrom?_closing hclose depth tokens ▸ h)
      · exact hcons _ (groupFrom?_other hopen hclose depth tokens ▸ h)

theorem findIdx?_opening_eq_none {tokens : List Token}
    (h : ∀ token ∈ tokens, token.kind ≠ .opening) :
    tokens.findIdx? (·.kind == .opening) = none :=
  List.findIdx?_eq_none_iff.mpr fun token htoken => beq_eq_false_iff_ne.mpr (h token htoken)

section Opening

variable (front : List Token) {opening : Token} (hopening : opening.kind = .opening)
  (behind : List Token)

include hopening

theorem findIdx?_append_opening (hfront : ∀ token ∈ front, token.kind ≠ .opening) :
    (front ++ opening :: behind).findIdx? (·.kind == .opening) = some front.length := by
  have hfirst : (opening.kind == .opening) = true := beq_iff_eq.mpr hopening
  rw [List.findIdx?_append, findIdx?_opening_eq_none hfront, List.findIdx?_cons, hfirst]
  simp

theorem matchingParen_append :
    matchingParen (front ++ opening :: behind) front.length
      = (groupFrom? 0 behind).map fun group => front.length + 1 + group.inner.length := by
  rw [← closingFrom_eq, matchingParen, List.drop_left]
  simp only [closingFrom, hopening]
  rfl

end Opening

theorem getElem?_close (front : List Token) (opening : Token) {behind : List Token} {group : Group}
    (h : groupFrom? 0 behind = some group) :
    (front ++ opening :: behind)[front.length + 1 + group.inner.length]? = some group.close := by
  have hsplit : front ++ opening :: behind
      = (front ++ opening :: group.inner) ++ group.close :: group.rest := by
    rw [eq_append_of_groupFrom? h, List.append_assoc]
    rfl
  have hlength : front.length + 1 + group.inner.length
      = (front ++ opening :: group.inner).length := by
    simp only [List.length_append, List.length_cons]
    omega
  rw [hsplit, hlength, List.getElem?_append_right (Nat.le_refl _), Nat.sub_self]
  rfl

theorem eq_of_start_eq {text : List Char} {i j : Nat} {first second : Token}
    (hfirst : (tokenize text)[i]? = some first) (hsecond : (tokenize text)[j]? = some second)
    (hstart : first.start = second.start) : i = j := by
  have hpairwise := (layout_tokenize text).pairwise_start_lt
  obtain ⟨hi, rfl⟩ := List.getElem?_eq_some_iff.mp hfirst
  obtain ⟨hj, rfl⟩ := List.getElem?_eq_some_iff.mp hsecond
  rcases Nat.lt_trichotomy i j with hlt | heq | hlt
  · have := List.pairwise_iff_getElem.mp hpairwise i j hi hj hlt
    exact absurd hstart (Nat.ne_of_lt this)
  · exact heq
  · have := List.pairwise_iff_getElem.mp hpairwise j i hj hi hlt
    exact absurd hstart.symm (Nat.ne_of_lt this)

/-- A text without an opening parenthesis outside quotes has no opening token. -/
theorem kind_ne_opening_of_not_mem {position : Nat} {text : List Char}
    (h : '(' ∉ codeOf none text) :
    ∀ token ∈ tokensFrom position .nothing text, token.kind ≠ .opening := by
  generalize htokens : tokensFrom position .nothing text = tokens
  induction tokens generalizing position text with
  | nil => exact List.forall_mem_nil _
  | cons token tokens ih =>
      obtain ⟨gap, lexeme, rest, rfl, hgap, hlexeme, -, -, hrest⟩ := exists_lexeme htokens
      rw [codeOf_append, openQuote_gap hgap, codeOf_append, List.mem_append, List.mem_append,
        not_or, not_or] at h
      obtain ⟨-, hlexemeNone, hrestNone⟩ := h
      refine List.forall_mem_cons.mpr ⟨?_, ih ?_ hrest⟩
      · intro hkind
        rcases hlexeme.after?_cases with ⟨-, rfl⟩ | ⟨htoken, -⟩ | ⟨⟨hne, -⟩, -⟩
        · exact hlexemeNone List.mem_cons_self
        · rw [htoken] at hkind
          cases hkind
        · exact hne hkind
      · rcases hlexeme.openQuote_eq with hclosed | rfl
        · rwa [hclosed] at hrestNone
        · exact List.not_mem_nil

/-- Either there is no opening token and the search fails, or the search looks for the end of the
group behind the first opening token. -/
theorem tokensFrom_cases (position : Nat) (text : List Char) :
    (Brackets.findFrom {} none position text = none ∧
      ∀ token ∈ tokensFrom position .nothing text, token.kind ≠ .opening) ∨
    ∃ front start rest, tokensFrom position .nothing text
        = front ++ parenToken .opening '(' start :: tokensFrom (start + 1) .nothing rest ∧
      (∀ token ∈ front, token.kind ≠ .opening) ∧
      Brackets.findFrom {} none position text
        = (Brackets.closeFrom {} none 0 (start + 1) rest).map fun close => (start, close) := by
  rcases Brackets.findFrom_cases none position text with ⟨hfind, hnone⟩ |
    ⟨before, rest, rfl, hquote, hfirst, hfind⟩
  · exact Or.inl ⟨hfind, kind_ne_opening_of_not_mem hnone⟩
  · refine Or.inr ⟨tokensFrom position .nothing before, position + before.length, rest, ?_,
      kind_ne_opening_of_not_mem hfirst, hfind⟩
    rw [tokensFrom_append hquote (isBreak_opening rest), tokensFrom_opening]

theorem matchingPlace_natCast (tokens : List Token) (opened : Nat) :
    matchingPlace tokens opened = .ok ((matchingParen tokens opened).map Int.ofNat) := by
  have hend : (-(opened : Int)).toNat = 0 := by omega
  simp [matchingPlace, hend]

theorem find?_eq_none_of_findIdx? {text : List Char}
    (h : (tokenize text).findIdx? (·.kind == .opening) = none) : Brackets.find? {} text = none := by
  rcases tokensFrom_cases 0 text with ⟨hfind, -⟩ | ⟨front, start, rest, htokens, -, -⟩
  · exact hfind
  · have hopening : parenToken .opening '(' start ∈ tokenize text := by
      rw [tokenize, htokens]
      exact List.mem_append_right _ List.mem_cons_self
    have hother := List.findIdx?_eq_none_iff.mp h _ hopening
    cases hother

/-- The first opening token has no partner, and then the search in the text fails, or its partner
stands at the position that this search finds. -/
theorem matchingParen_cases {text : List Char} {k : Nat}
    (hk : (tokenize text).findIdx? (·.kind == .opening) = some k) :
    ∃ opening, (tokenize text)[k]? = some opening ∧
      ((matchingParen (tokenize text) k = none ∧ Brackets.find? {} text = none) ∨
        ∃ j closing, matchingParen (tokenize text) k = some j ∧
          (tokenize text)[j]? = some closing ∧
          Brackets.find? {} text = some (opening.start, closing.start)) := by
  rw [tokenize] at hk ⊢
  rcases tokensFrom_cases 0 text with ⟨-, hnone⟩ | ⟨front, start, rest, htokens, hfront, hfind⟩
  · rw [findIdx?_opening_eq_none hnone] at hk
    cases hk
  rw [htokens] at hk ⊢
  obtain rfl : front.length = k :=
    Option.some.inj ((findIdx?_append_opening front rfl _ hfront).symm.trans hk)
  have hgroup := groupFrom?_tokensFrom 0 (start + 1) rest
  rw [matchingParen_append front rfl, Brackets.find?, hfind]
  refine ⟨parenToken .opening '(' start, by simp, ?_⟩
  cases hclose : Brackets.closeFrom {} none 0 (start + 1) rest with
  | none =>
      rw [hclose] at hgroup
      exact Or.inl ⟨by rw [hgroup]; rfl, rfl⟩
  | some close =>
      rw [hclose] at hgroup
      obtain ⟨_, behind, inner, _, _, hgroup⟩ := hgroup
      exact Or.inr ⟨front.length + 1 + inner.length, parenToken .closing ')' close,
        by rw [hgroup]; rfl, getElem?_close front _ hgroup, rfl⟩

/-- The search in a text finds the first pair of parentheses, as counting tells it, and among the
tokens the first opening one is matched with the token of the same pair. -/
theorem find?_iff_matchingPlace (text : List Char) :
    (∀ opened closed, Brackets.find? {} text = some (opened, closed) ↔
      IsFirstPair text opened closed) ∧
    (Brackets.find? {} text = none ↔ ¬ ∃ opened closed, IsFirstPair text opened closed) ∧
    ((tokenize text).findIdx? (·.kind == .opening) = none → Brackets.find? {} text = none) ∧
    ∀ k : Nat, (tokenize text).findIdx? (·.kind == .opening) = some k →
      (∀ j : Nat, matchingPlace (tokenize text) k = .ok (some (j : Int)) ↔
        ∃ opening closing, (tokenize text)[k]? = some opening ∧
          (tokenize text)[j]? = some closing ∧
          Brackets.find? {} text = some (opening.start, closing.start)) ∧
      (matchingPlace (tokenize text) k = .ok none ↔ Brackets.find? {} text = none) := by
  refine ⟨fun _ _ => Brackets.find?_eq_some_iff, Brackets.find?_eq_none_iff,
    find?_eq_none_of_findIdx?, fun k hk => ?_⟩
  rw [matchingPlace_natCast]
  obtain ⟨opening, hopening, ⟨hmatching, hfind⟩ | ⟨i, closing, hmatching, hclosing, hfind⟩⟩ :=
    matchingParen_cases hk
  · rw [hmatching, hfind]
    simp
  · rw [hmatching, hfind]
    refine ⟨fun j => ⟨fun hj => ?_, ?_⟩, by simp⟩
    · obtain rfl : i = j := Int.ofNat.inj (Option.some.inj (Except.ok.inj hj))
      exact ⟨opening, closing, hopening, hclosing, rfl⟩
    · rintro ⟨opening', closing', -, hclosing', hpair⟩
      have hstart : closing.start = closing'.start :=
        congrArg Prod.snd (Option.some.inj hpair)
      obtain rfl := eq_of_start_eq hclosing hclosing' hstart
      rfl

/-- A stray closing parenthesis and two quoted ones stand around the first pair, and an inner pair
in it. -/
theorem find?_iff_matchingPlace_stray :
    let text := ") x '(' (a, \")\" NUMERIC(10)) (b)".toList
    (tokenize text).findIdx? (·.kind == .opening) = some 3 ∧
      Brackets.find? {} text = some (8, 27) ∧ IsFirstPair text 8 27 ∧
      matchingPlace (tokenize text) 3 = .ok (some 10) := by
  intro text
  have hindex : (tokenize text).findIdx? (·.kind == .opening) = some 3 := by decide
  have hfind : Brackets.find? {} text = some (8, 27) := by decide
  obtain ⟨hpair, -, -, hmatching⟩ := find?_iff_matchingPlace text
  exact ⟨hindex, hfind, (hpair 8 27).mp hfind,
    ((hmatching 3 hindex).1 10).mpr ⟨_, _, rfl, rfl, hfind⟩⟩

end RelSchema.Sql
