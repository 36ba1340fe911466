import SchemaGuards.Proofs.Json.Quoted

/-!
# Reading laid out values back

What the writer lays out over lines the strict reader reads back as the same tree, as long as it
holds no numbers and repeats no key, and does not nest more deeply than the reader goes.
-/

namespace SchemaGuards.Json

/-! ### Values without numbers -/

/-- A value that holds no number and repeats no key. -/
inductive Plain : Json → Prop
  | null : Plain .null
  | bool (b : Bool) : Plain (.bool b)
  | text (s : String) : Plain (.text s)
  | list {items : List Json} (inside : ∀ v ∈ items, Plain v) : Plain (.list items)
  | object {entries : List (String × Json)} (distinct : (entries.map (·.1)).Nodup)
      (inside : ∀ e ∈ entries, Plain e.2) : Plain (.object entries)

mutual

/-- How many lists and objects stand around one another at most. -/
def nesting : Json → Nat
  | list items => nestingOfItems items + 1
  | object entries => nestingOfEntries entries + 1
  | _ => 0

/-- The deepest nesting among items. -/
def nestingOfItems : List Json → Nat
  | [] => 0
  | item :: rest => max (nesting item) (nestingOfItems rest)

/-- The deepest nesting among entries. -/
def nestingOfEntries : List (String × Json) → Nat
  | [] => 0
  | (_, value) :: rest => max (nesting value) (nestingOfEntries rest)

end

namespace Reader

variable {α β : Type}

/-- Reading a text gives a value and leaves the rest, wherever in a document the text stands. -/
def Takes (x : Reader α) (front : List Char) (a : α) (rest : List Char) : Prop :=
  ∀ offset, ∃ offset', x ⟨front, offset⟩ = .ok (a, ⟨rest, offset'⟩)

variable {x : Reader α} {f : α → Reader β} {front between rest : List Char} {a : α} {b : β}

theorem Takes.bind (hx : Takes x front a between) (hf : Takes (f a) between b rest) :
    Takes (x >>= f) front b rest := by
  intro offset
  obtain ⟨middle, hx⟩ := hx offset
  obtain ⟨offset', hf⟩ := hf middle
  exact ⟨offset', by simp only [Bind.bind, StateT.bind, hx, Except.bind, hf]⟩

theorem takes_pure (a : α) (rest : List Char) : Takes (pure a) rest a rest := fun offset =>
  ⟨offset, rfl⟩

theorem Takes.map (hx : Takes x front a rest) (g : α → β) :
    Takes (x >>= fun a => pure (g a)) front (g a) rest :=
  hx.bind (takes_pure (g a) rest)

theorem takes_next (c : Char) (rest : List Char) : Takes next (c :: rest) (some c) rest :=
  fun _ => ⟨_, rfl⟩

/-- Looking at the next character behind blanks. -/
theorem takes_skipSpace {spaces : List Char} (blank : ∀ s ∈ spaces, isSpace s = true)
    (rest : List Char) (ends : ∀ c ∈ rest.head?, isSpace c = false) :
    Takes skipSpace (spaces ++ rest) rest.head? rest := by
  intro offset
  have hdrop : (spaces ++ rest).dropWhile isSpace = rest := by
    rw [List.dropWhile_append_of_pos blank]
    cases rest with
    | nil => rfl
    | cons c rest => exact List.dropWhile_cons_of_neg (by simp [ends c rfl])
  exact ⟨_, by simp only [skipSpace, hdrop]; rfl⟩

/-- Looking at a character that comes next. -/
theorem takes_look {c : Char} (hc : isSpace c = false) (rest : List Char) :
    Takes skipSpace (c :: rest) (some c) (c :: rest) :=
  takes_skipSpace (List.forall_mem_nil _) (c :: rest) fun _ h => Option.some.inj h ▸ hc

theorem takes_string (s : String) (rest : List Char) :
    Takes string (quotedChars s.toList ++ rest) s rest := by
  intro offset
  obtain ⟨offset', h⟩ := string_quotedChars s.toList rest offset
  exact ⟨offset', by rw [h, String.ofList_toList]⟩

theorem takes_word (cs rest : List Char) : Takes (word cs) (cs ++ rest) () rest := by
  induction cs with
  | nil => exact takes_pure () rest
  | cons c cs ih =>
      refine (takes_next c (cs ++ rest)).bind ?_
      simpa only [if_true] using ih

variable {budget depth level : Nat}

theorem isSpace_of_mem_lineStart {c : Char} (h : c ∈ lineStart level) : isSpace c = true := by
  rcases List.mem_cons.mp h with rfl | h
  · rfl
  · rw [List.eq_of_mem_replicate h]
    rfl

/-- Looking at the first character of a line. -/
theorem takes_lineStart {c : Char} (hc : isSpace c = false) (rest : List Char) :
    Takes skipSpace (lineStart level ++ c :: rest) (some c) (c :: rest) :=
  takes_skipSpace (fun _ => isSpace_of_mem_lineStart) (c :: rest)
    fun _ h => Option.some.inj h ▸ hc

/-- A value is read from its layout, on a budget that the layout bounds. -/
def Reads (v : Json) : Prop :=
  ∀ budget depth level rest, nesting v ≤ depth → 2 * (layout level v).length ≤ budget →
    Takes (value (budget + 1) depth) (layout level v ++ rest) v rest

theorem reads_null : Reads null := by
  intro budget depth level rest _ _
  have written : layout level null ++ rest = 'n' :: (['u', 'l', 'l'] ++ rest) := rfl
  rw [value.eq_def, written]
  refine (takes_look rfl _).bind ?_
  refine (takes_next 'n' _).bind ?_
  exact (takes_word ['u', 'l', 'l'] rest).map fun _ => null

theorem reads_true : Reads (bool true) := by
  intro budget depth level rest _ _
  have written : layout level (bool true) ++ rest = 't' :: (['r', 'u', 'e'] ++ rest) := rfl
  rw [value.eq_def, written]
  refine (takes_look rfl _).bind ?_
  refine (takes_next 't' _).bind ?_
  exact (takes_word ['r', 'u', 'e'] rest).map fun _ => bool true

theorem reads_false : Reads (bool false) := by
  intro budget depth level rest _ _
  have written : layout level (bool false) ++ rest = 'f' :: (['a', 'l', 's', 'e'] ++ rest) := rfl
  rw [value.eq_def, written]
  refine (takes_look rfl _).bind ?_
  refine (takes_next 'f' _).bind ?_
  exact (takes_word ['a', 'l', 's', 'e'] rest).map fun _ => bool false

theorem reads_text (s : String) : Reads (text s) := by
  intro budget depth level rest _ _
  have hquote : Takes skipSpace (quotedChars s.toList ++ rest) (some '"')
      (quotedChars s.toList ++ rest) := takes_look rfl _
  rw [value.eq_def, layout]
  refine hquote.bind ?_
  exact (takes_string s rest).map text

/-- What is laid out starts with a character that is no blank and closes no list. -/
theorem exists_head_layout {v : Json} (plain : Plain v) (level : Nat) :
    ∃ c cs, layout level v = c :: cs ∧ isSpace c = false ∧ c ≠ ']' := by
  cases plain with
  | null => exact ⟨_, _, rfl, by decide, by decide⟩
  | bool b => cases b <;> exact ⟨_, _, rfl, by decide, by decide⟩
  | text s => exact ⟨'"', _, rfl, by decide, by decide⟩
  | @list items _ => cases items <;> exact ⟨'[', _, rfl, by decide, by decide⟩
  | @object entries _ _ => cases entries <;> exact ⟨'\x7b', _, rfl, by decide, by decide⟩

/-! ### Lists -/

/-- What stands between an item and the end of the lines of a list. -/
def moreItems (level : Nat) : List Json → List Char
  | [] => []
  | item :: rest => ',' :: layoutItems level (item :: rest)

theorem layoutItems_cons (level : Nat) (item : Json) (rest : List Json) :
    layoutItems level (item :: rest) =
      lineStart level ++ (layout level item ++ moreItems level rest) := by
  cases rest <;> simp [layoutItems, moreItems]

theorem length_moreItems_cons (level : Nat) (item : Json) (rest : List Json) :
    (moreItems level (item :: rest)).length =
      (layout level item ++ moreItems level rest).length + (2 * level + 2) := by
  rw [moreItems, layoutItems_cons]
  simp only [lineStart, List.length_append, List.length_cons, List.length_replicate]
  omega

/-- Items are read from the first one on up to the closing bracket. -/
theorem takes_items {first : Json} {others : List Json} (level outer : Nat)
    (plain : ∀ v ∈ first :: others, Plain v) (inside : ∀ v ∈ first :: others, Reads v)
    (within : nestingOfItems (first :: others) ≤ depth)
    (enough : 2 * (layout level first ++ moreItems level others).length + 2 ≤ budget)
    (rest : List Char) :
    Takes (items budget depth)
      (layout level first ++ (moreItems level others ++ (lineStart outer ++ ']' :: rest)))
      (first :: others) rest := by
  induction others generalizing first budget with
  | nil =>
      obtain ⟨budget, rfl⟩ : ∃ b, budget = b + 2 := ⟨budget - 2, by omega⟩
      obtain ⟨c, cs, hc, hspace, -⟩ := exists_head_layout (plain first (.head _)) level
      have hvalue := inside first (.head _) budget depth level (lineStart outer ++ ']' :: rest)
        (Nat.le_trans (Nat.le_max_left _ _) within) (by simp [moreItems] at enough; omega)
      rw [hc] at hvalue ⊢
      rw [items.eq_def]
      refine (takes_look hspace _).bind ?_
      refine hvalue.bind ?_
      refine (takes_lineStart rfl rest).bind ?_
      exact (takes_next ']' rest).map fun _ => [first]
  | cons second others ih =>
      obtain ⟨budget, rfl⟩ : ∃ b, budget = b + 2 := ⟨budget - 2, by omega⟩
      obtain ⟨c, cs, hc, hspace, -⟩ := exists_head_layout (plain first (.head _)) level
      obtain ⟨d, ds, hd, hspace', hclose⟩ :=
        exists_head_layout (plain second (.tail _ (.head _))) level
      have hlength := length_moreItems_cons level second others
      rw [List.length_append, hlength] at enough
      have hvalue := inside first (.head _) budget depth level
        (moreItems level (second :: others) ++ (lineStart outer ++ ']' :: rest))
        (Nat.le_trans (Nat.le_max_left _ _) within) (by omega)
      have hothers : Takes (items (budget + 1) depth) _ (second :: others) rest :=
        ih (fun v hv => plain v (.tail _ hv)) (fun v hv => inside v (.tail _ hv))
          (Nat.le_trans (Nat.le_max_right _ _) within) (by omega)
      rw [hc] at hvalue ⊢
      rw [moreItems, layoutItems_cons, hd] at hvalue ⊢
      rw [hd] at hothers
      simp only [List.cons_append, List.append_assoc] at hvalue hothers ⊢
      rw [items.eq_def]
      refine (takes_look hspace _).bind ?_
      refine hvalue.bind ?_
      refine (takes_look rfl _).bind ?_
      refine (takes_next ',' _).bind ?_
      refine (takes_lineStart hspace' _).bind ?_
      split
      · contradiction
      · next h => exact absurd (Option.some.inj h) hclose
      · exact hothers.map (first :: ·)

theorem nesting_list (items : List Json) : nesting (list items) = nestingOfItems items + 1 := by
  rw [nesting]

theorem layout_list (level : Nat) (first : Json) (others : List Json) (rest : List Char) :
    layout level (list (first :: others)) ++ rest =
      '[' :: (lineStart (level + 1) ++ (layout (level + 1) first ++
        (moreItems (level + 1) others ++ (lineStart level ++ ']' :: rest)))) := by
  rw [layout, if_neg (by simp), layoutItems_cons]
  simp only [List.cons_append, List.append_assoc, List.nil_append]

theorem reads_list {items : List Json} (plain : ∀ v ∈ items, Plain v)
    (inside : ∀ v ∈ items, Reads v) : Reads (list items) := by
  intro budget depth level rest within enough
  obtain ⟨depth, rfl⟩ : ∃ d, depth = d + 1 := ⟨depth - 1, by rw [nesting_list] at within; omega⟩
  cases items with
  | nil =>
      have written : layout level (list []) ++ rest = '[' :: ']' :: rest := by simp [layout]
      rw [value.eq_def, written]
      refine (takes_look rfl _).bind ?_
      refine (takes_next '[' _).bind ?_
      refine (takes_look rfl _).bind ?_
      exact (takes_next ']' rest).map fun _ => list []
  | cons first others =>
      obtain ⟨c, cs, hc, hspace, hclose⟩ := exists_head_layout (plain first (.head _)) (level + 1)
      have hlength := congrArg List.length (layout_list level first others [])
      simp only [List.length_append, List.length_cons, List.length_nil] at hlength
      have hitems : Takes (Reader.items budget depth) _ (first :: others) rest :=
        takes_items (level + 1) level plain inside (Nat.le_of_succ_le_succ within)
          (by simp only [List.length_append]; omega) rest
      rw [layout_list, value.eq_def]
      rw [hc] at hitems ⊢
      refine (takes_look rfl _).bind ?_
      refine (takes_next '[' _).bind ?_
      refine (takes_lineStart hspace _).bind ?_
      rw [if_neg (by simpa using hclose)]
      exact hitems.map list

/-! ### Objects -/

/-- What stands between an entry and the end of the lines of an object. -/
def moreEntries (level : Nat) : List (String × Json) → List Char
  | [] => []
  | entry :: rest => ',' :: layoutEntries level (entry :: rest)

theorem layoutEntries_cons (level : Nat) (key : String) (v : Json) (rest : List (String × Json)) :
    layoutEntries level ((key, v) :: rest) =
      lineStart level ++ (quotedChars key.toList ++
        (':' :: ' ' :: (layout level v ++ moreEntries level rest))) := by
  cases rest <;> simp [layoutEntries, moreEntries]

theorem length_moreEntries_cons (level : Nat) (key : String) (v : Json)
    (rest : List (String × Json)) :
    (moreEntries level ((key, v) :: rest)).length =
      (quotedChars key.toList ++ (layout level v ++ moreEntries level rest)).length +
        (2 * level + 4) := by
  rw [moreEntries, layoutEntries_cons]
  simp only [lineStart, List.length_append, List.length_cons, List.length_replicate]
  omega

theorem insert_of_new {key : String} (v : Json) {known : List (String × Json)}
    (new : key ∉ known.map (·.1)) : insert key v known = known ++ [(key, v)] := by
  induction known with
  | nil => rfl
  | cons entry known ih =>
      obtain ⟨hne, hnew⟩ := not_or.mp (mt List.mem_cons.mpr new)
      rw [insert, if_neg fun h => hne h.symm, ih hnew, List.cons_append]

/-- The first entry after the known ones repeats no key of theirs. -/
theorem insert_of_distinct {known others : List (String × Json)} {key : String} {v : Json}
    (distinct : ((known ++ (key, v) :: others).map (·.1)).Nodup) :
    insert key v known = known ++ [(key, v)] := by
  rw [List.map_append, List.map_cons] at distinct
  exact insert_of_new v fun h => (List.nodup_append.mp distinct).2.2 key h key (.head _) rfl

/-- A blank before a value changes nothing. -/
theorem Takes.value_of_blank {front rest : List Char} {v : Json}
    (h : Takes (value (budget + 1) depth) front v rest) :
    Takes (value (budget + 1) depth) (' ' :: front) v rest := by
  intro offset
  obtain ⟨offset', h⟩ := h (offset + 1)
  have hskip : skipSpace ⟨' ' :: front, offset⟩ = skipSpace ⟨front, offset + 1⟩ := by
    have hdrop : (' ' :: front).dropWhile isSpace = front.dropWhile isSpace := rfl
    have := (List.dropWhile_suffix isSpace (l := front)).length_le
    simp only [skipSpace, hdrop, List.length_cons]
    congr 3
    omega
  refine ⟨offset', ?_⟩
  rw [value.eq_def] at h ⊢
  simp only [Bind.bind, StateT.bind, hskip] at h ⊢
  exact h

/-- Entries are read from the first key on up to the closing brace, and follow the entries
known before. -/
theorem takes_entries {known : List (String × Json)} {key : String} {v : Json}
    {others : List (String × Json)} (level outer : Nat)
    (distinct : ((known ++ (key, v) :: others).map (·.1)).Nodup)
    (inside : ∀ e ∈ (key, v) :: others, Reads e.2)
    (within : nestingOfEntries ((key, v) :: others) ≤ depth)
    (enough : 2 * (quotedChars key.toList ++ (layout level v ++ moreEntries level others)).length
      + 2 ≤ budget) (rest : List Char) :
    Takes (entries budget depth known)
      (quotedChars key.toList ++ (':' :: ' ' :: (layout level v ++
        (moreEntries level others ++ (lineStart outer ++ '\x7d' :: rest)))))
      (known ++ (key, v) :: others) rest := by
  induction others generalizing known key v budget with
  | nil =>
      obtain ⟨budget, rfl⟩ : ∃ b, budget = b + 2 := ⟨budget - 2, by omega⟩
      have hvalue := inside (key, v) (.head _) budget depth level
        (lineStart outer ++ '\x7d' :: rest)
        (Nat.le_trans (Nat.le_max_left _ _) within) (by simp [moreEntries] at enough ⊢; omega)
      rw [entries.eq_def]
      refine (takes_string key _).bind ?_
      refine (takes_look rfl _).bind ?_
      refine (takes_next ':' _).bind ?_
      refine hvalue.value_of_blank.bind ?_
      rw [insert_of_distinct distinct]
      refine (takes_lineStart rfl rest).bind ?_
      exact (takes_next '\x7d' rest).map fun _ => known ++ [(key, v)]
  | cons second others ih =>
      obtain ⟨key', v'⟩ := second
      obtain ⟨budget, rfl⟩ : ∃ b, budget = b + 2 := ⟨budget - 2, by omega⟩
      have hlength := length_moreEntries_cons level key' v' others
      rw [List.length_append, List.length_append, hlength] at enough
      have hvalue := inside (key, v) (.head _) budget depth level
        (moreEntries level ((key', v') :: others) ++ (lineStart outer ++ '\x7d' :: rest))
        (Nat.le_trans (Nat.le_max_left _ _) within) (by simp only; omega)
      have hothers : Takes (entries (budget + 1) depth (known ++ [(key, v)])) _
          (known ++ [(key, v)] ++ (key', v') :: others) rest :=
        ih (by rwa [List.append_assoc]) (fun e he => inside e (.tail _ he))
          (Nat.le_trans (Nat.le_max_right _ _) within) (by omega)
      rw [List.append_assoc, List.singleton_append] at hothers
      rw [moreEntries, layoutEntries_cons] at hvalue ⊢
      simp only [List.cons_append, List.append_assoc] at hvalue ⊢
      rw [entries.eq_def]
      refine (takes_string key _).bind ?_
      refine (takes_look rfl _).bind ?_
      refine (takes_next ':' _).bind ?_
      refine hvalue.value_of_blank.bind ?_
      rw [insert_of_distinct distinct]
      refine (takes_look rfl _).bind ?_
      refine (takes_next ',' _).bind ?_
      refine (takes_lineStart rfl _).bind ?_
      exact hothers

theorem nesting_object (entries : List (String × Json)) :
    nesting (object entries) = nestingOfEntries entries + 1 := by
  rw [nesting]

theorem layout_object (level : Nat) (key : String) (v : Json) (others : List (String × Json))
    (rest : List Char) :
    layout level (object ((key, v) :: others)) ++ rest =
      '\x7b' :: (lineStart (level + 1) ++ (quotedChars key.toList ++
        (':' :: ' ' :: (layout (level + 1) v ++
          (moreEntries (level + 1) others ++ (lineStart level ++ '\x7d' :: rest)))))) := by
  rw [layout, if_neg (by simp), layoutEntries_cons]
  simp only [List.cons_append, List.append_assoc, List.nil_append]

theorem reads_object {entries : List (String × Json)} (distinct : (entries.map (·.1)).Nodup)
    (inside : ∀ e ∈ entries, Reads e.2) : Reads (object entries) := by
  intro budget depth level rest within enough
  obtain ⟨depth, rfl⟩ : ∃ d, depth = d + 1 :=
    ⟨depth - 1, by rw [nesting_object] at within; omega⟩
  cases entries with
  | nil =>
      have written : layout level (object []) ++ rest = '\x7b' :: '\x7d' :: rest := by simp [layout]
      rw [value.eq_def, written]
      refine (takes_look rfl _).bind ?_
      refine (takes_next '\x7b' _).bind ?_
      refine (takes_look rfl _).bind ?_
      exact (takes_next '\x7d' rest).map fun _ => object []
  | cons first others =>
      obtain ⟨key, v⟩ := first
      have hlength := congrArg List.length (layout_object level key v others [])
      simp only [List.length_append, List.length_cons, List.length_nil] at hlength
      have hentries : Takes (Reader.entries budget depth []) _ ((key, v) :: others) rest :=
        takes_entries (level + 1) level distinct inside (Nat.le_of_succ_le_succ within)
          (by simp only [List.length_append]; omega) rest
      rw [layout_object, value.eq_def]
      refine (takes_look rfl _).bind ?_
      refine (takes_next '\x7b' _).bind ?_
      refine (takes_lineStart rfl _).bind ?_
      exact hentries.map object

theorem reads_of_plain {v : Json} (plain : Plain v) : Reads v := by
  induction plain with
  | null => exact reads_null
  | bool b =>
      cases b with
      | true => exact reads_true
      | false => exact reads_false
  | text s => exact reads_text s
  | list inside ih => exact reads_list inside ih
  | object distinct _ ih => exact reads_object distinct ih

end Reader

/-- What is laid out is read back as the same value, with nothing but a line break after it, by
a reader that goes as deep as the value nests. -/
theorem readWithin_pretty {v : Json} {depth : Nat} (plain : Plain v) (within : nesting v ≤ depth) :
    readWithin depth (v.pretty ++ "\n") = .ok v := by
  have hchars : (v.pretty ++ "\n").toList = layout 0 v ++ ['\n'] := by
    rw [String.toList_append, pretty, String.toList_ofList]
    rfl
  have hdocument : Reader.Takes (Reader.document (2 * (layout 0 v ++ ['\n']).length + 2) depth)
      (layout 0 v ++ ['\n']) v [] := by
    have hblank : ∀ s ∈ ['\n'], Reader.isSpace s = true := List.forall_mem_singleton.mpr rfl
    have hend := Reader.takes_skipSpace hblank [] nofun
    refine (Reader.reads_of_plain plain _ depth 0 ['\n'] within ?_).bind ?_
    · simp only [List.length_append]
      omega
    · exact hend.bind (Reader.takes_pure v [])
  obtain ⟨offset, h⟩ := hdocument 0
  simp only [readWithin, hchars, h]

end SchemaGuards.Json
