import PatternLint.Proofs.Json.Token

/-!
# Reading JSON

`parse` reads the one value of a text: its tokens first, then the value by the grammar of the format.
Where an object gives a name twice the later field counts, as readers that build a dictionary have it; so
a value is read back from its rendered text if no object in it has a name twice (`parse_render`).
-/

namespace PatternLint.Json

/-- Adds a field in front of later ones; a later field of the same name takes its place. -/
def addField (k : String) (v : Json) (later : List (String × Json)) : List (String × Json) :=
  if k ∈ later.map (·.1) then later else (k, v) :: later

mutual

/-- Reads a value; `fuel` bounds the tokens that are read. -/
def readValue : Nat → List Token → Option (Json × List Token)
  | 0, _ => none
  | _ + 1, .null :: ts => some (.null, ts)
  | _ + 1, .bool b :: ts => some (.bool b, ts)
  | _ + 1, .int n :: ts => some (.int n, ts)
  | _ + 1, .str s :: ts => some (.str s, ts)
  | _ + 1, .openList :: .closeList :: ts => some (.arr [], ts)
  | fuel + 1, .openList :: ts => do
    let (v, ts) ← readValue fuel ts
    let (vs, ts) ← readItems fuel ts
    return (.arr (v :: vs), ts)
  | _ + 1, .openObject :: .closeObject :: ts => some (.obj [], ts)
  | fuel + 1, .openObject :: .str k :: .colon :: ts => do
    let (v, ts) ← readValue fuel ts
    let (fs, ts) ← readFields fuel ts
    return (.obj (addField k v fs), ts)
  | _ + 1, _ => none

/-- Reads further items of a list, up to its end. -/
def readItems : Nat → List Token → Option (List Json × List Token)
  | _ + 1, .closeList :: ts => some ([], ts)
  | fuel + 1, .comma :: ts => do
    let (v, ts) ← readValue fuel ts
    let (vs, ts) ← readItems fuel ts
    return (v :: vs, ts)
  | _, _ => none

/-- Reads further fields of an object, up to its end. -/
def readFields : Nat → List Token → Option (List (String × Json) × List Token)
  | _ + 1, .closeObject :: ts => some ([], ts)
  | fuel + 1, .comma :: .str k :: .colon :: ts => do
    let (v, ts) ← readValue fuel ts
    let (fs, ts) ← readFields fuel ts
    return (addField k v fs, ts)
  | _, _ => none

end

/-- The value of a text that holds one value and nothing else. -/
def parse (text : String) : Option Json := do
  let ts ← tokens text.toList
  match readValue ts.length ts with
  | some (v, []) => some v
  | _ => none

/-! ### Reading the tokens of a value -/

mutual

/-- No object has a name twice. -/
def DistinctNames : Json → Prop
  | .arr vs => ItemsDistinct vs
  | .obj fs => (fs.map (·.1)).Nodup ∧ FieldsDistinct fs
  | _ => True

def ItemsDistinct : List Json → Prop
  | [] => True
  | v :: vs => DistinctNames v ∧ ItemsDistinct vs

def FieldsDistinct : List (String × Json) → Prop
  | [] => True
  | (_, v) :: fs => DistinctNames v ∧ FieldsDistinct fs

end

theorem addField_of_nodup {k : String} {v : Json} {later : List (String × Json)}
    (h : (((k, v) :: later).map (·.1)).Nodup) : addField k v later = (k, v) :: later := by
  rw [List.map_cons, List.nodup_cons] at h
  rw [addField, if_neg h.1]

/-- A value does not start with the end of a list. -/
theorem tokensOf_ne_closeList (v : Json) (rest ts : List Token) :
    tokensOf v ++ rest ≠ .closeList :: ts := by
  cases v with
  | arr items => cases items <;> simp [tokensOf]
  | obj fields => cases fields <;> simp [tokensOf]
  | _ => simp [tokensOf]

theorem readValue_list {fuel : Nat} {v : Json} {vs : List Json} {ts ts' rest : List Token}
    (hv : readValue fuel ts = some (v, ts')) (hvs : readItems fuel ts' = some (vs, rest))
    (hne : ∀ l, ts ≠ .closeList :: l) :
    readValue (fuel + 1) (.openList :: ts) = some (.arr (v :: vs), rest) := by
  rw [readValue, hv]
  · simp only [Option.bind_eq_bind, Option.bind_some, hvs, Option.pure_def]
  · exact fun l hl => hne l hl

mutual

/-- A value is read from its tokens, wherever they stand. -/
theorem readValue_tokensOf : ∀ (v : Json) (fuel : Nat) (rest : List Token), v.DistinctNames →
    (tokensOf v).length ≤ fuel + 1 → readValue (fuel + 1) (tokensOf v ++ rest) = some (v, rest)
  | .null, fuel, rest, _, _ => by simp [tokensOf, readValue]
  | .bool b, fuel, rest, _, _ => by simp [tokensOf, readValue]
  | .int n, fuel, rest, _, _ => by simp [tokensOf, readValue]
  | .str s, fuel, rest, _, _ => by simp [tokensOf, readValue]
  | .arr [], fuel, rest, _, _ => by simp [tokensOf, readValue]
  | .arr (v :: vs), 0, rest, _, hfuel => by simp [tokensOf] at hfuel
  | .arr (v :: vs), fuel + 1, rest, hd, hfuel => by
    simp only [DistinctNames, ItemsDistinct] at hd
    simp only [tokensOf, List.length_cons, List.length_append, List.length_nil] at hfuel
    have hv := readValue_tokensOf v fuel (itemTokens vs ++ .closeList :: rest) hd.1 (by omega)
    have hvs := readItems_itemTokens vs fuel rest hd.2 (by omega)
    simp only [tokensOf, List.cons_append, List.append_assoc, List.nil_append]
    exact readValue_list hv hvs (tokensOf_ne_closeList v _)
  | .obj [], fuel, rest, _, _ => by simp [tokensOf, readValue]
  | .obj ((k, v) :: fs), 0, rest, _, hfuel => by simp [tokensOf] at hfuel
  | .obj ((k, v) :: fs), fuel + 1, rest, hd, hfuel => by
    simp only [DistinctNames, FieldsDistinct] at hd
    simp only [tokensOf, List.length_cons, List.length_append, List.length_nil] at hfuel
    have hv := readValue_tokensOf v fuel (fieldTokens fs ++ .closeObject :: rest) hd.2.1 (by omega)
    have hnames := (List.nodup_cons.mp hd.1).2
    have hfs := readFields_fieldTokens fs fuel rest hnames hd.2.2 (by omega)
    simp only [tokensOf, List.cons_append, List.append_assoc, List.nil_append]
    rw [readValue, hv]
    simp only [Option.bind_eq_bind, Option.bind_some, hfs, Option.pure_def, addField_of_nodup hd.1]

theorem readItems_itemTokens : ∀ (vs : List Json) (fuel : Nat) (rest : List Token),
    ItemsDistinct vs → (itemTokens vs).length ≤ fuel →
    readItems (fuel + 1) (itemTokens vs ++ .closeList :: rest) = some (vs, rest)
  | [], fuel, rest, _, _ => by simp [itemTokens, readItems]
  | v :: vs, 0, rest, _, hfuel => by simp [itemTokens] at hfuel
  | v :: vs, fuel + 1, rest, hd, hfuel => by
    simp only [ItemsDistinct] at hd
    simp only [itemTokens, List.length_cons, List.length_append] at hfuel
    have hv := readValue_tokensOf v fuel (itemTokens vs ++ .closeList :: rest) hd.1 (by omega)
    have hvs := readItems_itemTokens vs fuel rest hd.2 (by omega)
    simp only [itemTokens, List.cons_append, List.append_assoc]
    rw [readItems, hv]
    simp only [Option.bind_eq_bind, Option.bind_some, hvs, Option.pure_def]

theorem readFields_fieldTokens : ∀ (fs : List (String × Json)) (fuel : Nat) (rest : List Token),
    (fs.map (·.1)).Nodup → FieldsDistinct fs → (fieldTokens fs).length ≤ fuel →
    readFields (fuel + 1) (fieldTokens fs ++ .closeObject :: rest) = some (fs, rest)
  | [], fuel, rest, _, _, _ => by simp [fieldTokens, readFields]
  | (k, v) :: fs, 0, rest, _, _, hfuel => by simp [fieldTokens] at hfuel
  | (k, v) :: fs, fuel + 1, rest, hnames, hd, hfuel => by
    simp only [FieldsDistinct] at hd
    simp only [fieldTokens, List.length_cons, List.length_append] at hfuel
    have hv := readValue_tokensOf v fuel (fieldTokens fs ++ .closeObject :: rest) hd.1 (by omega)
    have hfs := readFields_fieldTokens fs fuel rest (List.nodup_cons.mp hnames).2 hd.2 (by omega)
    simp only [fieldTokens, List.cons_append, List.append_assoc]
    rw [readFields, hv]
    simp only [Option.bind_eq_bind, Option.bind_some, hfs, Option.pure_def,
      addField_of_nodup hnames]

end

/-- **A rendered value is read back**, on one line or with any indent. -/
theorem parse_render (indent : Option Nat) {v : Json} (h : v.DistinctNames) :
    parse (v.render indent) = some v := by
  have htokens : tokens (v.render indent).toList = some (tokensOf v) := by
    have hrender := tokens_renderAt indent 0 v stops_nil
    simpa [render, tokens_nil] using hrender
  have hread : readValue (tokensOf v).length (tokensOf v) = some (v, []) := by
    obtain ⟨n, hn⟩ : ∃ n, (tokensOf v).length = n + 1 := by
      refine Nat.exists_eq_add_one.mpr (List.length_pos_iff.mpr fun hnil => ?_)
      have hne := tokensOf_ne_closeList v [.closeList] []
      simp [hnil] at hne
    have hvalue := readValue_tokensOf v n [] h (by omega)
    rwa [List.append_nil, ← hn] at hvalue
  rw [parse, htokens, Option.bind_eq_bind, Option.bind_some, hread]

example : parse "[ -20 , [ ]]" = some (.arr [.int (-20), .arr []]) := by cbv

end PatternLint.Json
