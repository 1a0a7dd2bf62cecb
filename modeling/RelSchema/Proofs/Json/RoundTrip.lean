import RelSchema.Data.Encode
import RelSchema.Proofs.Json.Scalar

/-!
# Values in JSON

A written value is read back, and the text behind it is left. `ReadsWhen depth data fits` says so of
one value: it comes back if `fits` holds, and otherwise its text is not read at all. Values of this
kind are put together to lists and records of this kind, so all that has to be known of a value is
whether the integers in it are short enough.
-/

namespace RelSchema.Json

open Nat (toDigits)
open Number (digitLimit)

theorem isSpace_of_mem_newLine {level : Nat} {c : Char} (hc : c ∈ newLine level) :
    isSpace c = true := by
  rcases List.mem_cons.mp hc with rfl | hc
  · rfl
  · rw [List.eq_of_mem_replicate hc]
    rfl

theorem skipSpace_newLine (level : Nat) {s : List Char} (hs : ∀ c ∈ s.head?, isSpace c = false) :
    skipSpace (newLine level ++ s) = s :=
  Text.dropWhile_append_eq (fun _ hc => isSpace_of_mem_newLine hc) hs

theorem skipSpace_cons {c : Char} (hc : isSpace c = false) (s : List Char) :
    skipSpace (c :: s) = c :: s :=
  List.dropWhile_cons_of_neg (by rw [hc]; exact Bool.false_ne_true)

theorem endsNumber_of_head {c : Char} (hc : c = ',' ∨ c = '\n') (s : List Char) :
    EndsNumber (c :: s) := by
  intro d hd
  cases hd
  rcases hc with rfl | rfl <;> decide

theorem endsNumber_newLine (level : Nat) (s : List Char) : EndsNumber (newLine level ++ s) :=
  endsNumber_of_head (Or.inr rfl) _

/-- Whether an attempt gives the value if `fits` holds, and fails otherwise. -/
structure Gives {ε α : Type} (attempt : Except ε α) (fits : Prop) (value : α) : Prop where
  ok : fits → attempt = .ok value
  error : ¬fits → ∃ failure, attempt = .error failure

namespace Gives

variable {ε α β : Type} {attempt : Except ε α} {fits : Prop} {value : α}

theorem of_ok (h : attempt = .ok value) : Gives attempt True value :=
  ⟨fun _ => h, fun hfits => absurd trivial hfits⟩

theorem ok_iff (h : Gives attempt fits value) : attempt = .ok value ↔ fits := by
  refine ⟨fun hok => ?_, h.ok⟩
  by_contra hfits
  obtain ⟨failure, hfailure⟩ := h.error hfits
  rw [hfailure] at hok
  cases hok

theorem congr {other : Prop} (h : Gives attempt fits value) (hiff : fits ↔ other) :
    Gives attempt other value :=
  ⟨fun hother => h.ok (hiff.mpr hother), fun hother => h.error (mt hiff.mp hother)⟩

/-- Of two attempts in a row the second one starts from what the first one gives. -/
theorem bind {next : α → Except ε β} {more : Prop} {last : β} (h : Gives attempt fits value)
    (hnext : Gives (next value) more last) : Gives (attempt >>= next) (fits ∧ more) last where
  ok hboth := by
    rw [h.ok hboth.1]
    exact hnext.ok hboth.2
  error hboth := by
    by_cases hfits : fits
    · rw [h.ok hfits]
      exact hnext.error fun hmore => hboth ⟨hfits, hmore⟩
    · obtain ⟨failure, hfailure⟩ := h.error hfits
      rw [hfailure]
      exact ⟨failure, rfl⟩

theorem bind_ok {next : α → Except ε β} {last : β} (h : Gives attempt fits value)
    (hnext : next value = .ok last) : Gives (attempt >>= next) fits last :=
  (h.bind (.of_ok hnext)).congr (and_iff_left trivial)

end Gives

/-- Whether a character is no space, no end of a list, and no mark of a byte order. -/
def StartsValue (c : Char) : Prop :=
  isSpace c = false ∧ c ≠ ']' ∧ c ≠ '\ufeff'

instance (c : Char) : Decidable (StartsValue c) :=
  inferInstanceAs (Decidable (_ ∧ _ ∧ _))

/-- Whether a value that lies in `depth` others is read back from its text, which depends on `fits`
and on nothing else. -/
structure ReadsWhen (depth : Nat) (data : Data) (fits : Prop) : Prop where
  starts : ∀ level, ∃ c cs, render level data = c :: cs ∧ StartsValue c
  reads : ∀ level fuel rest, (render level data).length ≤ fuel → EndsNumber rest →
    Gives (readValue depth (fuel + 1) (render level data ++ rest)) fits (data, rest)

namespace ReadsWhen

variable {depth : Nat} {data : Data} {fits : Prop}

theorem congr {other : Prop} (h : ReadsWhen depth data fits) (hiff : fits ↔ other) :
    ReadsWhen depth data other :=
  ⟨h.starts, fun level fuel rest hfuel hrest => (h.reads level fuel rest hfuel hrest).congr hiff⟩

theorem null (depth : Nat) : ReadsWhen depth .null True :=
  ⟨fun _ => ⟨'n', _, rfl, by decide⟩, fun _ _ _ _ _ => .of_ok rfl⟩

theorem bool (depth : Nat) (b : Bool) : ReadsWhen depth (.bool b) True := by
  cases b with
  | false =>
      exact ⟨fun _ => ⟨'f', _, rfl, by decide⟩, fun _ _ _ _ _ => .of_ok rfl⟩
  | true =>
      exact ⟨fun _ => ⟨'t', _, rfl, by decide⟩, fun _ _ _ _ _ => .of_ok rfl⟩

theorem text (depth : Nat) (s : String) : ReadsWhen depth (.text s) True :=
  ⟨fun _ => ⟨'"', _, rfl, by decide⟩,
    fun _ _ rest _ _ => .of_ok (readText_renderText s rest)⟩

/-- An integer is read unless its numeral is too long. -/
theorem int (depth : Nat) (n : Int) :
    ReadsWhen depth (.int n) ((toDigits 10 n.natAbs).length ≤ digitLimit) where
  starts _ := by
    obtain ⟨c, cs, hsplit, hc⟩ := exists_cons_toString n
    refine ⟨c, cs, hsplit, ?_, ne_of_startsNumber hc (by decide) (by decide),
      ne_of_startsNumber hc (by decide) (by decide)⟩
    simp [isSpace, ne_of_startsNumber hc]
  reads level fuel rest _ hrest := by
    rw [render, readValue_toString, readNumber_toString n hrest]
    exact ⟨fun hfits => if_pos hfits, fun hfits => ⟨_, if_neg hfits⟩⟩

theorem isSpace_head? (h : ReadsWhen depth data fits) (level : Nat) (rest : List Char) :
    ∀ c ∈ (render level data ++ rest).head?, isSpace c = false := by
  obtain ⟨c, cs, hrender, hspace, -⟩ := h.starts level
  rw [hrender]
  intro d hd
  cases hd
  exact hspace

end ReadsWhen

/-- The items of a list are read from the first one on. -/
theorem gives_readItems {α : Type} {toData : α → Data} {fits : α → Prop} {depth : Nat}
    (level : Nat) (rest : List Char) {a : α} {elements : List α}
    (h : ∀ b ∈ a :: elements, ReadsWhen depth (toData b) (fits b)) (fuel : Nat)
    (hfuel : (render (level + 1) (toData a) ++
      renderItems level false (elements.map toData)).length ≤ fuel) :
    Gives (readItems depth (fuel + 1) (render (level + 1) (toData a) ++
        (renderItems level false (elements.map toData) ++ ']' :: rest)))
      (∀ b ∈ a :: elements, fits b) ((a :: elements).map toData, rest) := by
  induction elements generalizing a fuel with
  | nil =>
      rw [List.map_nil, List.length_append, renderItems, if_neg Bool.false_ne_true, newLine,
        List.length_cons] at hfuel
      obtain ⟨more, rfl⟩ : ∃ more, fuel = more + 1 := Nat.exists_eq_succ_of_ne_zero (by omega)
      have hread := (h a List.mem_cons_self).reads (level + 1) more (newLine level ++ ']' :: rest)
        (by omega) (endsNumber_newLine level _)
      have hclose : skipSpace (newLine level ++ ']' :: rest) = ']' :: rest :=
        skipSpace_newLine level (by simp [isSpace])
      rw [readItems, List.map_nil, renderItems, if_neg Bool.false_ne_true]
      refine (hread.bind_ok ?_).congr (by simp)
      simp only [hclose]
      rfl
  | cons b elements ih =>
      rw [List.map_cons, renderItems, if_neg Bool.false_ne_true, List.append_assoc,
        List.append_assoc, List.length_append, List.length_append, List.length_append,
        List.length_singleton] at hfuel
      obtain ⟨more, rfl⟩ : ∃ more, fuel = more + 1 := Nat.exists_eq_succ_of_ne_zero (by omega)
      have hbehind := ih (fun c hc => h c (List.mem_cons_of_mem a hc)) more (by omega)
      set behind := render (level + 1) (toData b) ++
        (renderItems level false (elements.map toData) ++ ']' :: rest) with hdef
      have hread := (h a List.mem_cons_self).reads (level + 1) more
        (',' :: (newLine (level + 1) ++ behind)) (by omega) (endsNumber_of_head (Or.inl rfl) _)
      have hcomma : skipSpace (',' :: (newLine (level + 1) ++ behind))
          = ',' :: (newLine (level + 1) ++ behind) := skipSpace_cons rfl _
      have hnext : skipSpace (newLine (level + 1) ++ behind) = behind :=
        skipSpace_newLine (level + 1) ((h b (by simp)).isSpace_head? (level + 1) _)
      have htext : renderItems level false ((b :: elements).map toData) ++ ']' :: rest
          = ',' :: (newLine (level + 1) ++ behind) := by
        simp [renderItems, hdef]
      rw [readItems, htext]
      refine (hread.bind ?_).congr List.forall_mem_cons.symm
      simp only [hcomma, hnext]
      exact hbehind.bind_ok rfl

theorem readValue_list {depth : Nat} (hdepth : depth < nestingLimit) (fuel : Nat)
    {s behind : List Char} (hs : skipSpace s = behind) (hbehind : behind.head? ≠ some ']') :
    readValue depth (fuel + 1) ('[' :: s)
      = readItems (depth + 1) fuel behind >>= fun (items, rest) => .ok (.list items, rest) := by
  rw [readValue, if_neg (Nat.not_le.mpr hdepth), hs]
  split
  · exact absurd rfl hbehind
  · rfl

/-- A list is read if all its items are. -/
theorem ReadsWhen.list {α : Type} {toData : α → Data} {fits : α → Prop} {depth : Nat}
    (hdepth : depth < nestingLimit) {elements : List α}
    (h : ∀ a ∈ elements, ReadsWhen (depth + 1) (toData a) (fits a)) :
    ReadsWhen depth (.list (elements.map toData)) (∀ a ∈ elements, fits a) where
  starts _ := ⟨'[', _, rfl, by decide⟩
  reads level fuel rest hfuel _ := by
    cases elements with
    | nil =>
        refine (Gives.of_ok ?_).congr (by simp)
        have hclose : skipSpace (']' :: rest) = ']' :: rest := skipSpace_cons rfl rest
        rw [render, List.map_nil, renderItems, if_pos rfl]
        change readValue depth (fuel + 1) ('[' :: ']' :: rest) = _
        rw [readValue, if_neg (Nat.not_le.mpr hdepth)]
        simp only [hclose]
    | cons a elements =>
        set items := render (level + 1) (toData a) ++
          renderItems level false (elements.map toData) with hitems
        have htext : render level (.list ((a :: elements).map toData))
            = '[' :: (newLine (level + 1) ++ (items ++ [']'])) := by
          simp [render, renderItems, hitems]
        obtain ⟨c, cs, hstart, hspace, hc, -⟩ := (h a List.mem_cons_self).starts (level + 1)
        have hhead : ∀ more, (items ++ more).head? = some c := by
          simp [hitems, hstart]
        rw [htext, List.length_cons, List.length_append, List.length_append,
          List.length_singleton] at hfuel
        obtain ⟨more, rfl⟩ : ∃ more, fuel = more + 1 := Nat.exists_eq_succ_of_ne_zero (by omega)
        have hread := gives_readItems level rest h more (by rw [← hitems]; omega)
        rw [← List.append_assoc, ← hitems, List.append_cons] at hread
        have hskip : skipSpace (newLine (level + 1) ++ (items ++ [']'] ++ rest))
            = items ++ [']'] ++ rest :=
          skipSpace_newLine (level + 1) (by simp [hhead, hspace])
        rw [htext, List.cons_append, List.append_assoc, readValue_list hdepth _ hskip
          (by simpa [hhead] using hc)]
        exact hread.bind_ok rfl

/-- Fields under texts as members of a record. -/
def membersOf (fields : List (String × Data)) : List (Data × Data) :=
  fields.map fun (name, value) => (.text name, value)

theorem membersOf_nil : membersOf [] = [] :=
  rfl

theorem membersOf_cons (name : String) (value : Data) (fields : List (String × Data)) :
    membersOf ((name, value) :: fields) = (.text name, value) :: membersOf fields :=
  rfl

theorem setMember_membersOf {name : String} (value : Data) {fields : List (String × Data)}
    (hname : name ∉ fields.map (·.1)) :
    Data.setMember (.text name) value (membersOf fields)
      = membersOf (fields ++ [(name, value)]) := by
  induction fields with
  | nil => rfl
  | cons field fields ih =>
      rw [List.map_cons, List.mem_cons, not_or] at hname
      have hother : (Data.text field.1).sameKey (.text name) = false :=
        beq_eq_false_iff_ne.mpr (Ne.symm hname.1)
      rw [membersOf_cons, Data.setMember, hother, if_neg Bool.false_ne_true, ih hname.2]
      rfl

theorem readMembers_renderText (depth fuel : Nat) (before : List (Data × Data)) (name : String)
    {s : List Char} (hs : ∀ c ∈ s.head?, isSpace c = false) :
    readMembers depth (fuel + 1) before (renderText name ++ ':' :: ' ' :: s)
      = readValue depth fuel s >>= fun (value, rest) =>
          match skipSpace rest with
          | '}' :: rest => .ok (Data.setMember (.text name) value before, rest)
          | ',' :: rest => readMembers depth fuel (Data.setMember (.text name) value before)
              (skipSpace rest)
          | rest => .error ⟨.comma, rest⟩ := by
  have hname := readText_renderText name (':' :: ' ' :: s)
  have hcolon : skipSpace (':' :: ' ' :: s) = ':' :: ' ' :: s := skipSpace_cons rfl _
  have hspace : skipSpace (' ' :: s) = s :=
    Text.dropWhile_append_eq (a := [' ']) (by simp [isSpace]) hs
  rw [renderText, List.cons_append, List.cons_append] at hname ⊢
  rw [readMembers, hname]
  simp only [bind, Except.bind, hcolon, hspace]
  rfl

/-- A member is read if its value is, and then what stands behind it. -/
theorem gives_readMembers_member {depth level : Nat} {name : String} {value : Data} {fit : Prop}
    (hvalue : ReadsWhen depth value fit) {before : List (String × Data)}
    (hname : name ∉ before.map (·.1)) {fuel : Nat}
    (hfuel : (renderMember level (.text name, value)).length ≤ fuel) {behind : List Char}
    (hbehind : EndsNumber behind) {more : Prop} {last : List (Data × Data) × List Char}
    (hnext : Gives (match skipSpace behind with
      | '}' :: rest => .ok (membersOf (before ++ [(name, value)]), rest)
      | ',' :: rest => readMembers depth (fuel + 1) (membersOf (before ++ [(name, value)]))
          (skipSpace rest)
      | rest => .error ⟨.comma, rest⟩) more last) :
    Gives (readMembers depth (fuel + 2) (membersOf before)
      (renderMember level (.text name, value) ++ behind)) (fit ∧ more) last := by
  rw [renderMember, render, List.length_append, List.length_cons, List.length_cons] at hfuel
  rw [renderMember, render, List.append_assoc, List.cons_append, List.cons_append,
    readMembers_renderText _ _ _ _ (hvalue.isSpace_head? level _)]
  refine (hvalue.reads level fuel behind (by omega) hbehind).bind ?_
  simp only [setMember_membersOf value hname]
  exact hnext

theorem not_mem_of_nodup {before fields : List (String × Data)} {name : String} {value : Data}
    (h : ((before ++ (name, value) :: fields).map (·.1)).Nodup) : name ∉ before.map (·.1) := by
  rw [List.map_append, List.map_cons, List.nodup_append] at h
  exact fun hmem => h.2.2 name hmem name List.mem_cons_self rfl

/-- The members of a record are read from the first one on. -/
theorem gives_readMembers {depth : Nat} (level : Nat) (rest : List Char)
    {fields : List (String × Data)} {fits : List Prop}
    (hfields : List.Forall₂ (fun field => ReadsWhen depth field.2) fields fits)
    (before : List (String × Data)) {name : String} {value : Data} {fit : Prop}
    (hvalue : ReadsWhen depth value fit)
    (hnames : ((before ++ (name, value) :: fields).map (·.1)).Nodup) (fuel : Nat)
    (hfuel : (renderMember (level + 1) (.text name, value) ++
      renderMembers level false (membersOf fields)).length ≤ fuel) :
    Gives (readMembers depth (fuel + 1) (membersOf before)
        (renderMember (level + 1) (.text name, value) ++
          (renderMembers level false (membersOf fields) ++ '}' :: rest)))
      ((fit :: fits).Forall id) (membersOf (before ++ (name, value) :: fields), rest) := by
  rw [List.length_append] at hfuel
  induction hfields generalizing before name value fit fuel with
  | nil =>
      have hclose : skipSpace (newLine level ++ '}' :: rest) = '}' :: rest :=
        skipSpace_newLine level (by simp [isSpace])
      rw [membersOf_nil, renderMembers, if_neg Bool.false_ne_true] at hfuel ⊢
      have hlength : 0 < (newLine level).length := Nat.succ_pos _
      obtain ⟨more, rfl⟩ : ∃ more, fuel = more + 1 := Nat.exists_eq_succ_of_ne_zero (by omega)
      refine (gives_readMembers_member hvalue (not_mem_of_nodup hnames) (by omega)
        (endsNumber_newLine level _) (.of_ok ?_)).congr (and_iff_left trivial)
      simp only [hclose]
  | @cons field nextFit fields fits hnext hmore ih =>
      obtain ⟨next, nextValue⟩ := field
      have hnextValue : ReadsWhen depth nextValue nextFit := hnext
      rw [membersOf_cons, renderMembers, if_neg Bool.false_ne_true, List.append_assoc,
        List.append_assoc, List.length_append, List.length_singleton, List.length_append,
        List.length_append] at hfuel
      obtain ⟨more, rfl⟩ : ∃ more, fuel = more + 1 := Nat.exists_eq_succ_of_ne_zero (by omega)
      have hname := not_mem_of_nodup hnames
      rw [List.append_cons before (name, value)] at hnames ⊢
      have hbehind := ih _ hnextValue hnames more (by omega)
      set behind := renderMember (level + 1) (.text next, nextValue) ++
        (renderMembers level false (membersOf fields) ++ '}' :: rest) with hdef
      have hcomma : skipSpace (',' :: (newLine (level + 1) ++ behind))
          = ',' :: (newLine (level + 1) ++ behind) := skipSpace_cons rfl _
      have hstart : skipSpace (newLine (level + 1) ++ behind) = behind :=
        skipSpace_newLine (level + 1) (by simp [hdef, renderMember, render, renderText, isSpace])
      have htext : renderMembers level false (membersOf ((next, nextValue) :: fields))
          ++ '}' :: rest = ',' :: (newLine (level + 1) ++ behind) := by
        simp [membersOf_cons, renderMembers, hdef]
      rw [htext]
      refine gives_readMembers_member hvalue hname (by omega) (endsNumber_of_head (Or.inl rfl) _) ?_
      rw [hcomma]
      simp only [hstart]
      exact hbehind

theorem readValue_record {depth : Nat} (hdepth : depth < nestingLimit) (fuel : Nat)
    {s behind : List Char} (hs : skipSpace s = behind) (hbehind : behind.head? ≠ some '}') :
    readValue depth (fuel + 1) ('{' :: s)
      = readMembers (depth + 1) fuel [] behind >>=
          fun (members, rest) => .ok (.record members, rest) := by
  rw [readValue, if_neg (Nat.not_le.mpr hdepth), hs]
  split
  · exact absurd rfl hbehind
  · rfl

/-- A record with distinct names is read if all its fields are. -/
theorem ReadsWhen.fields {depth : Nat} (hdepth : depth < nestingLimit)
    {fields : List (String × Data)} (hnames : (fields.map (·.1)).Nodup) {fits : List Prop}
    (hfields : List.Forall₂ (fun field => ReadsWhen (depth + 1) field.2) fields fits) :
    ReadsWhen depth (.ofFields fields) (fits.Forall id) where
  starts _ := ⟨'{', _, rfl, by decide⟩
  reads level fuel rest hfuel _ := by
    cases hfields with
    | nil =>
        refine .of_ok ?_
        have hclose : skipSpace ('}' :: rest) = '}' :: rest := skipSpace_cons rfl rest
        rw [Data.ofFields, List.map_nil, render, renderMembers, if_pos rfl]
        change readValue depth (fuel + 1) ('{' :: '}' :: rest) = _
        rw [readValue, if_neg (Nat.not_le.mpr hdepth)]
        simp only [hclose]
    | @cons field fit fields fits hfield hmore =>
        obtain ⟨name, value⟩ := field
        have hvalue : ReadsWhen (depth + 1) value fit := hfield
        set members := renderMember (level + 1) (.text name, value) ++
          renderMembers level false (membersOf fields) with hmembers
        have htext : render level (.ofFields ((name, value) :: fields))
            = '{' :: (newLine (level + 1) ++ (members ++ ['}'])) := by
          change render level (.record (membersOf ((name, value) :: fields))) = _
          simp [render, membersOf_cons, renderMembers, hmembers]
        have hhead : ∀ more, (members ++ more).head? = some '"' := by
          simp [hmembers, renderMember, render, renderText]
        rw [htext, List.length_cons, List.length_append, List.length_append,
          List.length_singleton] at hfuel
        obtain ⟨more, rfl⟩ : ∃ more, fuel = more + 1 := Nat.exists_eq_succ_of_ne_zero (by omega)
        have hread := gives_readMembers level rest hmore [] hvalue hnames more
          (by rw [← hmembers]; omega)
        rw [← List.append_assoc, ← hmembers, List.append_cons] at hread
        have hskip : skipSpace (newLine (level + 1) ++ (members ++ ['}'] ++ rest))
            = members ++ ['}'] ++ rest :=
          skipSpace_newLine (level + 1) (by simp [hhead, isSpace])
        rw [htext, List.cons_append, List.append_assoc, readValue_record hdepth _ hskip
          (by simp [hhead])]
        exact hread.bind_ok rfl

/-- The text of a value is read as the value. -/
theorem gives_read_write {data : Data} {fits : Prop} (h : ReadsWhen 0 data fits) :
    Gives (read (write data)) fits data := by
  obtain ⟨c, cs, hstart, hspace, -, hmark⟩ := h.starts 0
  have hread := h.reads 0 (2 * (render 0 data).length + 1) [] (by omega) (by simp [EndsNumber])
  rw [List.append_nil] at hread
  have hskip : skipSpace (render 0 data) = render 0 data := by
    rw [hstart]
    exact skipSpace_cons hspace cs
  -- With this the first case of the reader, a text behind a mark, is ruled out.
  have hmarked : ∀ rest, render 0 data ≠ '\ufeff' :: rest := fun rest heq =>
    hmark (List.cons.inj (hstart.symm.trans heq)).1
  unfold read write
  simp only [String.toList_ofList, hskip]
  constructor
  · intro hfits
    have hend : skipSpace [] = [] := rfl
    simp only [hread.ok hfits, hend]
  · intro hfits
    obtain ⟨stop, hstop⟩ := hread.error hfits
    simp only [hstop]
    exact ⟨_, rfl⟩

end RelSchema.Json
