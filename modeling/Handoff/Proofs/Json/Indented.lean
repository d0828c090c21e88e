import Handoff.Proofs.Json.Reading

/-!
# Indented text read back

The indented text of a value differs from the compact one in blanks between tokens only, and the reader
skips these; so it is read as the same value.
-/

namespace Handoff.Json

/-! ## Line breaks -/

/-- A line break with its blanks is skipped. -/
theorem skipBlanks_newline (depth : Nat) (s : List Char) :
    skipBlanks (newline depth ++ s) = skipBlanks s := by
  have blanks (n : Nat) : skipBlanks (List.replicate n ' ' ++ s) = skipBlanks s := by
    induction n with
    | zero => rfl
    | succ n ih =>
      rw [List.replicate_succ, List.cons_append, ← ih]
      rfl
  rw [newline, List.cons_append, ← blanks (2 * depth)]
  rfl

private theorem readValue?_newline (depth fuel : Nat) (s : List Char) :
    readValue? fuel (newline depth ++ s) = readValue? fuel s := by
  cases fuel with
  | zero => rfl
  | succ fuel => rw [readValue?, readValue?, skipBlanks_newline]

private theorem readItems?_newline (depth fuel : Nat) (s : List Char) :
    readItems? fuel (newline depth ++ s) = readItems? fuel s := by
  cases fuel with
  | zero => rfl
  | succ fuel => rw [readItems?, readItems?, readValue?_newline]

private theorem readMembers?_newline (depth fuel : Nat) (s : List Char) :
    readMembers? fuel (newline depth ++ s) = readMembers? fuel s := by
  cases fuel with
  | zero => rfl
  | succ fuel => rw [readMembers?, readMembers?, skipBlanks_newline]

private theorem endsNumeral_newline (depth : Nat) (s : List Char) :
    EndsNumeral (newline depth ++ s) := by
  intro c hc
  cases hc
  decide

/-! ## Values -/

private theorem indentedItems_cons (depth : Nat) (item : Json) (rest : List Json) :
    indentedItems depth (item :: rest) =
      newline depth ++ (indentedChars depth item ++ match rest with
        | [] => newline (depth - 1) ++ [']']
        | next :: others => ',' :: indentedItems depth (next :: others)) := by
  cases rest <;> simp [indentedItems]

private theorem indentedMembers_cons (depth : Nat) (key : String) (value : Json)
    (rest : List (String × Json)) :
    indentedMembers depth ((key, value) :: rest) =
      newline depth ++ (stringChars key ++ ':' :: ' ' :: (indentedChars depth value ++ match rest with
        | [] => newline (depth - 1) ++ ['\x7d']
        | next :: others => ',' :: indentedMembers depth (next :: others))) := by
  cases rest <;> simp [indentedMembers]

private theorem head_indentedChars (depth : Nat) {j : Json} (h : Legible j) :
    ∃ c t, indentedChars depth j = c :: t ∧ StartsValue c := by
  cases j with
  | array items =>
    cases items <;> exact ⟨'[', _, by rw [indentedChars], by decide, by decide, by decide⟩
  | object members =>
    cases members <;> exact ⟨'\x7b', _, by rw [indentedChars], by decide, by decide, by decide⟩
  | bool b => cases b <;> exact head_compactChars h
  | _ => exact head_compactChars h

mutual

/-- An indented value reads back, whatever follows it that does not go on a numeral. -/
theorem readValue?_indentedChars (j : Json) (h : Legible j) (depth : Nat) (rest : List Char)
    (hr : EndsNumeral rest) (fuel : Nat) (hf : 2 * (indentedChars depth j).length ≤ fuel) :
    readValue? fuel (indentedChars depth j ++ rest) = some (j, rest) := by
  obtain ⟨c, t, hhead, -⟩ := head_indentedChars depth h
  have hpos : 0 < (indentedChars depth j).length := by rw [hhead]; exact Nat.succ_pos _
  obtain ⟨fuel, rfl⟩ : ∃ n, fuel = n + 1 := ⟨fuel - 1, by omega⟩
  cases j with
  | array items =>
    cases items with
    | nil => simp [indentedChars, readValue?, skipBlanks, isBlank]
    | cons item items =>
      obtain ⟨c, t, hhead, hstart⟩ := head_indentedChars (depth + 1) h.1
      rw [indentedChars, List.length_cons] at hf
      have read := readItems?_indentedItems (item :: items) (by simp) h (depth + 1) rest fuel (by omega)
      rw [indentedChars, List.cons_append, readValue?,
        skipBlanks_of_startsValue (by exact ⟨by decide, by decide, by decide⟩)]
      rw [indentedItems_cons, hhead, List.append_assoc, List.cons_append, List.cons_append] at read ⊢
      rw [readItems?_newline] at read
      simp only [skipBlanks_newline, skipBlanks_of_startsValue hstart]
      split
      · next he => exact absurd (List.cons.inj he).1 hstart.2.1
      · rw [read]; rfl
  | object members =>
    cases members with
    | nil => simp [indentedChars, readValue?, skipBlanks, isBlank]
    | cons member members =>
      obtain ⟨key, value⟩ := member
      rw [indentedChars, List.length_cons] at hf
      have read := readMembers?_indentedMembers ((key, value) :: members) (by simp) h (depth + 1) rest
        fuel (by omega)
      rw [indentedChars, List.cons_append, readValue?,
        skipBlanks_of_startsValue (by exact ⟨by decide, by decide, by decide⟩)]
      rw [indentedMembers_cons, stringChars, List.append_assoc, List.cons_append,
        List.cons_append] at read ⊢
      rw [readMembers?_newline] at read
      simp only [skipBlanks_newline,
        skipBlanks_of_startsValue startsValue_quote]
      split
      · next he => exact absurd (List.cons.inj he).1 (by decide)
      · rw [read, Option.map_some, ofMembers_some]
  -- What has no parts is printed as in the compact form.
  | bool b => cases b <;> exact readValue?_compactChars _ h rest hr _ hf
  | _ => exact readValue?_compactChars _ h rest hr _ hf

/-- The indented items of an array read back. -/
theorem readItems?_indentedItems (items : List Json) (hne : items ≠ []) (h : LegibleItems items)
    (depth : Nat) (rest : List Char) (fuel : Nat)
    (hf : 2 * (indentedItems depth items).length ≤ fuel) :
    readItems? fuel (indentedItems depth items ++ rest) = some (items, rest) := by
  cases items with
  | nil => exact absurd rfl hne
  | cons item items =>
    rw [indentedItems_cons] at hf ⊢
    simp only [List.length_append, newline, List.length_cons] at hf
    obtain ⟨fuel, rfl⟩ : ∃ n, fuel = n + 1 := ⟨fuel - 1, by omega⟩
    rw [List.append_assoc, readItems?_newline, List.append_assoc, readItems?]
    cases items with
    | nil =>
      have first := readValue?_indentedChars item h.1 depth (newline (depth - 1) ++ [']'] ++ rest)
        (by rw [List.append_assoc]; exact endsNumeral_newline _ _) fuel (by omega)
      simp only [first, Option.bind_eq_bind, Option.bind_some]
      rw [List.append_assoc, skipBlanks_newline]
      simp [skipBlanks, isBlank]
    | cons next others =>
      simp only [List.length_cons] at hf
      have first := readValue?_indentedChars item h.1 depth
        (',' :: (indentedItems depth (next :: others) ++ rest)) (endsNumeral_of_mark _ (by simp)) fuel
        (by omega)
      have others := readItems?_indentedItems (next :: others) (by simp) h.2 depth rest fuel (by omega)
      simp only [List.cons_append, first, Option.bind_eq_bind, Option.bind_some]
      rw [skipBlanks_comma]
      simp [others]

/-- The indented members of an object read back. -/
theorem readMembers?_indentedMembers (members : List (String × Json)) (hne : members ≠ [])
    (h : LegibleMembers members) (depth : Nat) (rest : List Char) (fuel : Nat)
    (hf : 2 * (indentedMembers depth members).length ≤ fuel) :
    readMembers? fuel (indentedMembers depth members ++ rest) =
      some (members.map fun m => (some m.1, m.2), rest) := by
  have blank (fuel : Nat) (t : List Char) : readValue? fuel (' ' :: t) = readValue? fuel t := by
    cases fuel with
    | zero => rfl
    | succ fuel => rw [readValue?, readValue?]; rfl
  cases members with
  | nil => exact absurd rfl hne
  | cons member members =>
    obtain ⟨key, value⟩ := member
    rw [indentedMembers_cons] at hf ⊢
    simp only [List.length_append, newline, List.length_cons] at hf
    obtain ⟨fuel, rfl⟩ : ∃ n, fuel = n + 1 := ⟨fuel - 1, by omega⟩
    rw [List.append_assoc, readMembers?_newline]
    simp only [stringChars, List.cons_append, List.append_assoc, List.nil_append]
    rw [readMembers?, skipBlanks_of_startsValue startsValue_quote]
    simp only [stringBody_escaped, Option.bind_eq_bind, Option.bind_some, skipBlanks_colon, blank]
    cases members with
    | nil =>
      have first := readValue?_indentedChars value h.1 depth (newline (depth - 1) ++ ('\x7d' :: rest))
        (endsNumeral_newline _ _) fuel (by omega)
      simp [first, skipBlanks_newline, skipBlanks_brace]
    | cons next others =>
      simp only [List.length_cons] at hf
      have first := readValue?_indentedChars value h.1 depth
        (',' :: (indentedMembers depth (next :: others) ++ rest)) (endsNumeral_of_mark _ (by simp)) fuel
        (by omega)
      have others := readMembers?_indentedMembers (next :: others) (by simp) h.2 depth rest fuel
        (by omega)
      simp only [List.cons_append, first, Option.bind_some, skipBlanks_comma, others]
      rfl

end

/-- The indented text of a value that is used as it is printed and not nested too deeply is parsed to
that value. -/
theorem parse?_indented {j : Json} (h : Legible j) (hn : nesting j ≤ levelLimit) :
    parse? (indented j) = some j := by
  have read := readValue?_indentedChars j h 0 [] endsNumeral_nil
    (2 * (indentedChars 0 j).length + 2) (by omega)
  rw [List.append_nil] at read
  have deep : parseDeep? (indented j) = some j := by
    simp only [parseDeep?, indented, String.toList_ofList, read]
    rfl
  rw [parse?, deep, Option.map_some, bounded_of_nesting_le j hn]

end Handoff.Json
