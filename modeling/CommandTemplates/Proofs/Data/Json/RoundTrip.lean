/-
Plain data is read back from the text that it is written as, unless it is nested too deep.

Plain data (`Value.Plain`) are truth values, integers of 64 bits, texts, and lists and
tables of them.  A layout may put blanks before an item, before a closing bracket and
behind a colon (`Layout.Airy`); the reader passes them over.  It counts the brackets that
it is inside and opens none at the limit, so it finds the data or nothing, and which of
the two depends on the depth of the data (`Value.depth`) alone.

* `readItems?_joined`, `readEntries?_joined` — the items of a list, or the entries of a
  table, are read back if each of their values is, and refused if one of them is;
* `readsAs_render` — plain data is read back or refused, whatever stands behind its text;
* `parse?_render` — the whole text is that of the data, exactly if it is within the limit.
-/
import CommandTemplates.Proofs.Data.Json.Scalar
import Mathlib.Data.List.DropRight
import Mathlib.Data.List.Nodup

namespace CommandTemplates

/-- Data of truth values, integers of 64 bits, texts, lists and tables.  Each table holds a key
once, and only such keys as are allowed. -/
inductive Value.Plain (allowed : String → Prop) : Value → Prop
  | bool (b : Bool) : Plain allowed (.bool b)
  | integer {n : Int} (low : -0x8000000000000000 ≤ n) (high : n < 0x8000000000000000) :
    Plain allowed (.integer n)
  | text (s : String) : Plain allowed (.text s)
  | list {items : List Value} (items_plain : ∀ v ∈ items, Plain allowed v) :
    Plain allowed (.list items)
  | table {entries : List (String × Value)} (keys_nodup : (entries.map Prod.fst).Nodup)
    (keys_allowed : ∀ e ∈ entries, allowed e.1) (values_plain : ∀ e ∈ entries, Plain allowed e.2) :
    Plain allowed (.table entries)

theorem Value.Plain.mono {allowed wider : String → Prop} (hwider : ∀ key, allowed key → wider key)
    {v : Value} (h : v.Plain allowed) : v.Plain wider := by
  induction h with
  | bool b => exact .bool b
  | integer low high => exact .integer low high
  | text s => exact .text s
  | list _ ih => exact .list ih
  | table nodup keys _ ih => exact .table nodup (fun e he => hwider _ (keys e he)) ih

mutual

/-- How many levels of lists and tables there are in data.  A date is written as a table. -/
def Value.depth : Value → Nat
  | .list items => itemsDepth items + 1
  | .table entries => entriesDepth entries + 1
  | .datetime _ => 1
  | .null | .bool _ | .integer _ | .float _ | .text _ => 0

/-- How many levels there are in the items of a list. -/
def Value.itemsDepth : List Value → Nat
  | [] => 0
  | v :: rest => max v.depth (itemsDepth rest)

/-- How many levels there are in the entries of a table. -/
def Value.entriesDepth : List (String × Value) → Nat
  | [] => 0
  | (_, v) :: rest => max v.depth (entriesDepth rest)

end

@[simp] theorem Value.depth_bool (b : Bool) : (Value.bool b).depth = 0 := by rw [depth]

@[simp] theorem Value.depth_integer (n : Int) : (Value.integer n).depth = 0 := by rw [depth]

@[simp] theorem Value.depth_text (s : String) : (Value.text s).depth = 0 := by rw [depth]

theorem Value.itemsDepth_le {items : List Value} {n : Nat} :
    itemsDepth items ≤ n ↔ ∀ v ∈ items, v.depth ≤ n := by
  induction items with
  | nil => simp [itemsDepth]
  | cons v items ih => rw [itemsDepth, Nat.max_le, ih, List.forall_mem_cons]

theorem Value.entriesDepth_le {entries : List (String × Value)} {n : Nat} :
    entriesDepth entries ≤ n ↔ ∀ e ∈ entries, e.2.depth ≤ n := by
  induction entries with
  | nil => simp [entriesDepth]
  | cons e entries ih => rw [entriesDepth, Nat.max_le, ih, List.forall_mem_cons]

/-- A new key goes to the end. -/
theorem Value.setField_of_not_mem {key : String} {value : Value} {entries : List (String × Value)}
    (h : key ∉ entries.map Prod.fst) :
    Value.setField key value entries = entries ++ [(key, value)] := by
  induction entries with
  | nil => rfl
  | cons e entries ih =>
    obtain ⟨k, v⟩ := e
    simp only [List.map_cons, List.mem_cons, not_or] at h
    rw [setField, if_neg fun heq => h.1 heq.symm, ih h.2, List.cons_append]

/-- Entries of different keys are kept as they are. -/
theorem Value.foldl_setField (before : List (String × Value)) {entries : List (String × Value)}
    (h : ((before ++ entries).map Prod.fst).Nodup) :
    entries.foldl (fun t e => Value.setField e.1 e.2 t) before = before ++ entries := by
  induction entries generalizing before with
  | nil => rw [List.foldl_nil, List.append_nil]
  | cons e entries ih =>
    have hnew : e.1 ∉ before.map Prod.fst := by
      rw [List.map_append, List.nodup_append] at h
      exact fun hmem => h.2.2 e.1 hmem e.1 (by simp) rfl
    have hnext : ((before ++ [e] ++ entries).map Prod.fst).Nodup := by simpa using h
    rw [List.foldl_cons, setField_of_not_mem hnew, ih _ hnext, List.append_assoc,
      List.singleton_append]

namespace Json

/-- Whether a layout adds nothing but blanks, and the colon. -/
structure Layout.Airy (layout : Layout) : Prop where
  breaks : ∀ depth, ∀ c ∈ (layout.breakBefore depth).toList, isBlank c = true
  colon : ∃ blanks, layout.colon.toList = ':' :: blanks ∧ ∀ c ∈ blanks, isBlank c = true

theorem oneLine_airy : oneLine.Airy :=
  ⟨fun _ c hc => by simp [oneLine] at hc, [], rfl, by simp⟩

theorem indented_airy : indented.Airy := by
  refine ⟨fun depth c hc => ?_, [' '], rfl, List.forall_mem_singleton.2 rfl⟩
  simp only [indented, String.toList_append, String.toList_ofList, List.mem_append,
    List.mem_replicate] at hc
  rcases hc with hc | ⟨-, rfl⟩
  · obtain rfl : c = '\n' := by simpa using hc
    rfl
  · rfl

/-! ### Blanks -/

section Blanks

variable {blanks cs : List Char} {fuel outer : Nat}

theorem skipBlanks_append (h : ∀ c ∈ blanks, isBlank c = true) :
    skipBlanks (blanks ++ cs) = skipBlanks cs := List.dropWhile_append_of_pos h

theorem skipBlanks_cons {c : Char} (h : isBlank c = false) : skipBlanks (c :: cs) = c :: cs := by
  rw [skipBlanks, List.dropWhile_cons, if_neg (by rw [h]; exact Bool.false_ne_true)]

theorem skipBlanks_skipBlanks : skipBlanks (skipBlanks cs) = skipBlanks cs :=
  List.dropWhile_idempotent _ cs

theorem readValue?_skipBlanks :
    readValue? fuel outer (skipBlanks cs) = readValue? fuel outer cs := by
  cases fuel with
  | zero => rw [readValue?, readValue?]
  | succ fuel => rw [readValue?, readValue?, skipBlanks_skipBlanks]

theorem readValue?_append (h : ∀ c ∈ blanks, isBlank c = true) :
    readValue? fuel outer (blanks ++ cs) = readValue? fuel outer cs := by
  rw [← readValue?_skipBlanks, skipBlanks_append h, readValue?_skipBlanks]

theorem readItems?_skipBlanks :
    readItems? fuel outer (skipBlanks cs) = readItems? fuel outer cs := by
  cases fuel with
  | zero => rw [readItems?, readItems?]
  | succ fuel => rw [readItems?, readItems?, readValue?_skipBlanks]

theorem readEntries?_skipBlanks :
    readEntries? fuel outer (skipBlanks cs) = readEntries? fuel outer cs := by
  cases fuel with
  | zero => rw [readEntries?, readEntries?]
  | succ fuel => rw [readEntries?, readEntries?, skipBlanks_skipBlanks]

/-- A number ends before a mark between values, or blanks and such a mark. -/
theorem endsNumber_append {c : Char} (h : ∀ c ∈ blanks, isBlank c = true)
    (hc : c = ',' ∨ c = ']' ∨ c = '}') : EndsNumber (blanks ++ c :: cs) := by
  intro d hd
  have hmark : isBlank d = true ∨ d = ',' ∨ d = ']' ∨ d = '}' := by
    cases blanks with
    | nil =>
      obtain rfl : c = d := by simpa using hd
      exact .inr hc
    | cons b blanks =>
      obtain rfl : b = d := by simpa using hd
      exact .inl (h b (by simp))
  simp only [isBlank, Bool.or_eq_true, decide_eq_true_eq] at hmark
  rcases hmark with (((rfl | rfl) | rfl) | rfl) | rfl | rfl | rfl <;> decide

theorem endsNumber_comma : EndsNumber (',' :: cs) :=
  @endsNumber_append [] cs ',' (List.forall_mem_nil _) (.inl rfl)

end Blanks

/-! ### Lists and tables -/

section Brackets

variable {cs rest : List Char} {fuel outer : Nat}

/-- A list with items is read if its items are, one level further in. -/
theorem readValue?_of_items {items : List Value} (hclosing : ∀ tail, skipBlanks cs ≠ ']' :: tail)
    (h : outer + 1 < depthLimit → readItems? fuel (outer + 1) cs =
      if outer + 1 + Value.itemsDepth items < depthLimit then some (items, rest) else none) :
    readValue? (fuel + 1) outer ('[' :: cs) =
      if outer + (Value.list items).depth < depthLimit then some (.list items, rest) else none := by
  rw [readValue?, skipBlanks_cons rfl, Value.depth]
  by_cases hlimit : outer + 1 < depthLimit
  · -- by `hclosing` this is not the case of a list without items
    simp only [if_pos hlimit, readItems?_skipBlanks, h hlimit]
    rw [Nat.add_assoc, Nat.add_comm 1]
    split <;> rfl
  · simp only [if_neg hlimit]
    rw [if_neg (by omega)]

/-- A table with entries of different keys is read if its entries are, one level further in. -/
theorem readValue?_of_entries {entries : List (String × Value)}
    (hnodup : (entries.map Prod.fst).Nodup) (hclosing : ∀ tail, skipBlanks cs ≠ '}' :: tail)
    (h : outer + 1 < depthLimit → readEntries? fuel (outer + 1) cs =
      if outer + 1 + Value.entriesDepth entries < depthLimit then some (entries, rest) else none) :
    readValue? (fuel + 1) outer ('{' :: cs) =
      if outer + (Value.table entries).depth < depthLimit then some (.table entries, rest)
      else none := by
  rw [readValue?, skipBlanks_cons rfl, Value.depth]
  by_cases hlimit : outer + 1 < depthLimit
  · -- by `hclosing` this is not the case of a table without entries
    simp only [if_pos hlimit, readEntries?_skipBlanks, h hlimit]
    rw [Nat.add_assoc, Nat.add_comm 1]
    split
    · rw [Option.map_some, Value.foldl_setField [] hnodup, List.nil_append]
    · rfl
  · simp only [if_neg hlimit]
    rw [if_neg (by omega)]

end Brackets

/-- Whether a text is read back as data, whatever stands behind it, if the limit lets the data
in.  It cannot be taken for the end of a list. -/
structure ReadsAs (text : String) (v : Value) : Prop where
  not_closing : ∀ rest tail, skipBlanks (text.toList ++ rest) ≠ ']' :: tail
  reads : ∀ {fuel outer : Nat} {rest : List Char}, 2 * text.toList.length < fuel →
    outer < depthLimit → EndsNumber rest → readValue? fuel outer (text.toList ++ rest) =
      if outer + v.depth < depthLimit then some (v, rest) else none

section Joined

variable {layout : Layout} {depth outer : Nat} {blanks rest : List Char} {fuel : Nat}

/-- Items behind one another, each after a break. -/
def joined (layout : Layout) (depth : Nat) (items : List String) : String :=
  String.intercalate "," (items.map fun item => layout.breakBefore depth ++ item)

theorem toList_joined_singleton (item : String) :
    (joined layout depth [item]).toList = (layout.breakBefore depth).toList ++ item.toList := by
  rw [joined, List.map_singleton, String.intercalate_singleton, String.toList_append]

theorem toList_joined_cons (item next : String) (items : List String) :
    (joined layout depth (item :: next :: items)).toList =
      (layout.breakBefore depth).toList ++
        (item.toList ++ ',' :: (joined layout depth (next :: items)).toList) := by
  rw [joined, List.map_cons, List.map_cons, String.intercalate_cons_cons]
  simp only [String.toList_append, List.append_assoc]
  rfl

/-- Items behind one another begin with a break and the first of them. -/
theorem exists_toList_joined_cons (item : String) (items : List String) :
    ∃ more, (joined layout depth (item :: items)).toList =
      (layout.breakBefore depth).toList ++ (item.toList ++ more) := by
  cases items with
  | nil => exact ⟨[], by rw [toList_joined_singleton, List.append_nil]⟩
  | cons next items => exact ⟨_, toList_joined_cons item next items⟩

theorem toList_quote (text : String) :
    (quote text).toList = '"' :: (text.toList.flatMap escapeCharacter ++ ['"']) := by
  simp only [quote, String.toList_append, String.toList_ofList]
  rfl

section First

variable {after more : List Char} {v : Value} {text : String} (hlayout : layout.Airy)
  (hv : ReadsAs text v) (houter : outer < depthLimit) (hafter : EndsNumber after)
include hlayout hv houter hafter

/-- The last item is read if a closing bracket is behind it. -/
theorem readItems?_last (hfuel : 2 * text.toList.length < fuel)
    (hend : skipBlanks after = ']' :: rest) :
    readItems? (fuel + 1) outer ((layout.breakBefore depth).toList ++ (text.toList ++ after)) =
      if outer + v.depth < depthLimit then some ([v], rest) else none := by
  rw [readItems?, readValue?_append (hlayout.breaks depth), hv.reads hfuel houter hafter]
  split
  · simp only [Option.bind_eq_bind, Option.bind_some, hend]
  · rfl

/-- An item is read if a comma and further items are behind it. -/
theorem readItems?_more (hfuel : 2 * text.toList.length < fuel)
    (hcomma : skipBlanks after = ',' :: more) {items : List Value}
    (hmore : readItems? fuel outer more =
      if outer + Value.itemsDepth items < depthLimit then some (items, rest) else none) :
    readItems? (fuel + 1) outer ((layout.breakBefore depth).toList ++ (text.toList ++ after)) =
      if outer + Value.itemsDepth (v :: items) < depthLimit then some (v :: items, rest)
      else none := by
  rw [readItems?, readValue?_append (hlayout.breaks depth), hv.reads hfuel houter hafter,
    Value.itemsDepth]
  by_cases hdepth : outer + v.depth < depthLimit
  · have hiff : outer + max v.depth (Value.itemsDepth items) < depthLimit ↔
        outer + Value.itemsDepth items < depthLimit := by omega
    simp only [if_pos hdepth, Option.bind_eq_bind, Option.bind_some, hcomma, hmore, hiff]
    split <;> rfl
  · rw [if_neg hdepth, if_neg (by omega)]
    rfl

/-- The key of an entry is found behind the break, and its value is read behind the colon. -/
theorem exists_value_of_entry (depth : Nat) (key : String)
    (hfuel : 2 * (quote key ++ layout.colon ++ text).toList.length < fuel) :
    ∃ tail, skipBlanks ((layout.breakBefore depth).toList ++
          ((quote key ++ layout.colon ++ text).toList ++ after)) =
        '"' :: (key.toList.flatMap escapeCharacter ++ '"' :: ':' :: tail) ∧
      readValue? fuel outer tail =
        if outer + v.depth < depthLimit then some (v, after) else none := by
  obtain ⟨gap, hcolon, hgap⟩ := hlayout.colon
  simp only [String.toList_append, List.length_append] at hfuel
  refine ⟨gap ++ (text.toList ++ after), ?_, ?_⟩
  · simp only [String.toList_append, List.append_assoc, skipBlanks_append (hlayout.breaks depth),
      toList_quote, List.cons_append, List.nil_append, hcolon]
    exact skipBlanks_cons rfl
  · rw [readValue?_append hgap]
    exact hv.reads (by omega) houter hafter

/-- The last entry is read if a closing bracket is behind it. -/
theorem readEntries?_last (key : String)
    (hfuel : 2 * (quote key ++ layout.colon ++ text).toList.length < fuel)
    (hend : skipBlanks after = '}' :: rest) :
    readEntries? (fuel + 1) outer ((layout.breakBefore depth).toList ++
        ((quote key ++ layout.colon ++ text).toList ++ after)) =
      if outer + v.depth < depthLimit then some ([(key, v)], rest) else none := by
  obtain ⟨tail, hkey, hvalue⟩ := exists_value_of_entry hlayout hv houter hafter depth key hfuel
  rw [readEntries?, hkey]
  simp only [readString?_escaped, Option.bind_eq_bind, Option.bind_some,
    skipBlanks_cons (show isBlank ':' = false from rfl), hvalue]
  split
  · simp only [Option.bind_some, hend, String.ofList_toList]
  · rfl

/-- An entry is read if a comma and further entries are behind it. -/
theorem readEntries?_more (key : String)
    (hfuel : 2 * (quote key ++ layout.colon ++ text).toList.length < fuel)
    (hcomma : skipBlanks after = ',' :: more) {entries : List (String × Value)}
    (hmore : readEntries? fuel outer more =
      if outer + Value.entriesDepth entries < depthLimit then some (entries, rest) else none) :
    readEntries? (fuel + 1) outer ((layout.breakBefore depth).toList ++
        ((quote key ++ layout.colon ++ text).toList ++ after)) =
      if outer + Value.entriesDepth ((key, v) :: entries) < depthLimit then
        some ((key, v) :: entries, rest)
      else none := by
  obtain ⟨tail, hkey, hvalue⟩ := exists_value_of_entry hlayout hv houter hafter depth key hfuel
  rw [readEntries?, hkey, Value.entriesDepth]
  simp only [readString?_escaped, Option.bind_eq_bind, Option.bind_some,
    skipBlanks_cons (show isBlank ':' = false from rfl), hvalue]
  by_cases hdepth : outer + v.depth < depthLimit
  · have hiff : outer + max v.depth (Value.entriesDepth entries) < depthLimit ↔
        outer + Value.entriesDepth entries < depthLimit := by omega
    simp only [if_pos hdepth, Option.bind_some, hcomma, hmore, hiff, String.ofList_toList]
    split <;> rfl
  · rw [if_neg hdepth, if_neg (by omega)]
    rfl

end First

/-- Items behind one another are read up to the closing bracket. -/
theorem readItems?_joined (hlayout : layout.Airy) (hblanks : ∀ c ∈ blanks, isBlank c = true)
    (houter : outer < depthLimit) {items : List Value} (hne : items ≠ [])
    (hitems : ∀ v ∈ items, ReadsAs (render layout depth v) v)
    (hfuel : 2 * (joined layout depth (renderItems layout depth items)).toList.length + 1 < fuel) :
    readItems? fuel outer ((joined layout depth (renderItems layout depth items)).toList ++
        (blanks ++ ']' :: rest)) =
      if outer + Value.itemsDepth items < depthLimit then some (items, rest) else none := by
  induction items generalizing fuel with
  | nil => exact absurd rfl hne
  | cons v items ih =>
    have hv : ReadsAs (render layout depth v) v := hitems v (by simp)
    obtain ⟨fuel, rfl⟩ : ∃ n, fuel = n + 1 := ⟨fuel - 1, by omega⟩
    cases items with
    | nil =>
      simp only [renderItems, toList_joined_singleton, List.length_append] at hfuel ⊢
      have hend : skipBlanks (blanks ++ ']' :: rest) = ']' :: rest := by
        rw [skipBlanks_append hblanks, skipBlanks_cons rfl]
      rw [List.append_assoc, readItems?_last hlayout hv houter
        (endsNumber_append hblanks (by simp)) (by omega) hend, Value.itemsDepth, Value.itemsDepth,
        Nat.max_zero]
    | cons w items =>
      simp only [renderItems, toList_joined_cons, List.length_append, List.length_cons]
        at hfuel ih ⊢
      have htail := @ih fuel (by simp) (fun u hu => hitems u (by simp [hu])) (by omega)
      rw [List.append_assoc, List.append_assoc, List.cons_append]
      exact readItems?_more hlayout hv houter endsNumber_comma (by omega) (skipBlanks_cons rfl)
        htail

/-- Entries behind one another are read up to the closing bracket. -/
theorem readEntries?_joined (hlayout : layout.Airy) (hblanks : ∀ c ∈ blanks, isBlank c = true)
    (houter : outer < depthLimit) {entries : List (String × Value)} (hne : entries ≠ [])
    (hentries : ∀ e ∈ entries, ReadsAs (render layout depth e.2) e.2)
    (hfuel : 2 * (joined layout depth (renderEntries layout depth entries)).toList.length + 1 <
      fuel) :
    readEntries? fuel outer ((joined layout depth (renderEntries layout depth entries)).toList ++
        (blanks ++ '}' :: rest)) =
      if outer + Value.entriesDepth entries < depthLimit then some (entries, rest) else none := by
  induction entries generalizing fuel with
  | nil => exact absurd rfl hne
  | cons e entries ih =>
    obtain ⟨key, v⟩ := e
    have hv : ReadsAs (render layout depth v) v := hentries (key, v) (by simp)
    obtain ⟨fuel, rfl⟩ : ∃ n, fuel = n + 1 := ⟨fuel - 1, by omega⟩
    cases entries with
    | nil =>
      simp only [renderEntries, toList_joined_singleton, List.length_append] at hfuel ⊢
      have hend : skipBlanks (blanks ++ '}' :: rest) = '}' :: rest := by
        rw [skipBlanks_append hblanks, skipBlanks_cons rfl]
      rw [List.append_assoc, readEntries?_last hlayout hv houter
        (endsNumber_append hblanks (by simp)) key (by omega) hend, Value.entriesDepth,
        Value.entriesDepth, Nat.max_zero]
    | cons e entries =>
      obtain ⟨next, w⟩ := e
      simp only [renderEntries, toList_joined_cons, List.length_append, List.length_cons]
        at hfuel ih ⊢
      have htail := @ih fuel (by simp) (fun u hu => hentries u (by simp [hu])) (by omega)
      rw [List.append_assoc, List.append_assoc, List.cons_append]
      exact readEntries?_more hlayout hv houter endsNumber_comma key (by omega)
        (skipBlanks_cons rfl) htail

end Joined

/-! ### Data -/

section Data

variable {layout : Layout} {depth : Nat}

/-- A number begins with its sign or a digit. -/
theorem not_blank_of_number {c : Char} (hc : c = '-' ∨ c.isDigit = true) : isBlank c = false := by
  rw [Bool.eq_false_iff]
  intro h
  simp only [isBlank, Bool.or_eq_true, decide_eq_true_eq] at h
  rcases h with ((rfl | rfl) | rfl) | rfl <;> exact absurd hc (by decide)

theorem readValue?_of_number {c : Char} {cs : List Char} {fuel outer : Nat}
    (hc : c = '-' ∨ c.isDigit = true) :
    readValue? (fuel + 1) outer (c :: cs) = readNumber? (c :: cs) := by
  rw [readValue?, skipBlanks_cons (not_blank_of_number hc)]
  split
  all_goals first
    | rfl
    | next heq => obtain ⟨rfl, -⟩ := List.cons.inj heq; exact absurd hc (by decide)

/-- A text that begins with no closing bracket cannot be taken for the end of a list. -/
theorem skipBlanks_ne_closing {c : Char} {cs tail : List Char} (hblank : isBlank c = false)
    (hc : c ≠ ']') : skipBlanks (c :: cs) ≠ ']' :: tail := by
  rw [skipBlanks_cons hblank]
  exact fun heq => hc (List.cons.inj heq).1

/-- Data without lists and tables is read at every level that the reader gets to. -/
theorem readsAs_of_depth_eq_zero {text : String} {v : Value} (hdepth : v.depth = 0)
    (hclosing : ∀ rest tail, skipBlanks (text.toList ++ rest) ≠ ']' :: tail)
    (h : ∀ {fuel outer : Nat} {rest : List Char}, EndsNumber rest →
      readValue? (fuel + 1) outer (text.toList ++ rest) = some (v, rest)) : ReadsAs text v := by
  refine ⟨hclosing, fun {fuel outer rest} hfuel houter hrest => ?_⟩
  obtain ⟨fuel, rfl⟩ : ∃ n, fuel = n + 1 := ⟨fuel - 1, by omega⟩
  rw [h hrest, hdepth, Nat.add_zero, if_pos houter]

theorem readsAs_bool (b : Bool) : ReadsAs (if b then "true" else "false") (.bool b) := by
  cases b with
  | true =>
    refine readsAs_of_depth_eq_zero (Value.depth_bool _) (fun rest tail => ?_) fun _ => ?_
    · exact skipBlanks_ne_closing rfl (by decide)
    · rw [if_pos rfl, readValue?]; rfl
  | false =>
    refine readsAs_of_depth_eq_zero (Value.depth_bool _) (fun rest tail => ?_) fun _ => ?_
    · exact skipBlanks_ne_closing rfl (by decide)
    · rw [if_neg Bool.false_ne_true, readValue?]; rfl

theorem readsAs_integer {n : Int} (hlow : -0x8000000000000000 ≤ n)
    (hhigh : n < 0x8000000000000000) : ReadsAs (toString n) (.integer n) := by
  obtain ⟨c, cs, hcons, hc⟩ := toString_integer_begins n
  refine readsAs_of_depth_eq_zero (Value.depth_integer n) (fun rest tail => ?_) fun hrest => ?_
  · rw [hcons, List.cons_append]
    refine skipBlanks_ne_closing (not_blank_of_number hc) ?_
    rintro rfl
    exact absurd hc (by decide)
  · have hread := readNumber?_integer hlow hhigh hrest
    rw [hcons, List.cons_append] at hread ⊢
    rw [readValue?_of_number hc, hread]

theorem readsAs_text (s : String) : ReadsAs (quote s) (.text s) := by
  refine readsAs_of_depth_eq_zero (Value.depth_text s) (fun rest tail => ?_) fun _ => ?_
  · rw [toList_quote, List.cons_append]
    exact skipBlanks_ne_closing rfl (by decide)
  · rw [toList_quote, List.cons_append, List.append_assoc, List.singleton_append, readValue?,
      skipBlanks_cons rfl]
    simp only [readString?_escaped, Option.map_some, String.ofList_toList]

/-- Brackets around items, and what stands behind them. -/
theorem toList_bracketed_append {opening closing : String} {items : List String} {o c : Char}
    (ho : opening.toList = [o]) (hc : closing.toList = [c]) (hne : items ≠ []) (rest : List Char) :
    (bracketed layout depth opening closing items).toList ++ rest =
      o :: ((joined layout (depth + 1) items).toList ++
        ((layout.breakBefore depth).toList ++ c :: rest)) := by
  rw [bracketed, if_neg hne]
  simp only [String.toList_append, ho, hc, List.append_assoc, List.singleton_append]
  rfl

/-- A text in brackets that are not those of a list cannot be taken for its end, nor can a list. -/
theorem bracketed_ne_closing {opening closing : String} {items : List String} {o : Char}
    (ho : opening.toList = [o]) (hblank : isBlank o = false) (hne : o ≠ ']')
    (rest tail : List Char) :
    skipBlanks ((bracketed layout depth opening closing items).toList ++ rest) ≠ ']' :: tail := by
  have hbegins : ∃ cs, (bracketed layout depth opening closing items).toList = o :: cs := by
    rw [bracketed]
    split <;> simp [ho]
  obtain ⟨cs, hcs⟩ := hbegins
  rw [hcs, List.cons_append]
  exact skipBlanks_ne_closing hblank hne

theorem readsAs_list (hlayout : layout.Airy) {items : List Value}
    (h : ∀ v ∈ items, ReadsAs (render layout (depth + 1) v) v) :
    ReadsAs (render layout depth (.list items)) (.list items) := by
  refine ⟨fun rest tail => ?_, fun {fuel outer rest} hfuel houter _ => ?_⟩
  · rw [render]
    exact bracketed_ne_closing rfl rfl (by decide) rest tail
  obtain ⟨fuel, rfl⟩ : ∃ n, fuel = n + 1 := ⟨fuel - 1, by omega⟩
  cases items with
  | nil =>
    rw [render, renderItems, bracketed, if_pos rfl, readValue?, Value.depth, Value.itemsDepth]
    rfl
  | cons v items =>
    have hne : renderItems layout (depth + 1) (v :: items) ≠ [] := by simp [renderItems]
    have htext := @toList_bracketed_append layout depth "[" "]" _ '[' ']' rfl rfl hne
    rw [render] at hfuel ⊢
    rw [← List.append_nil (String.toList _), htext] at hfuel
    rw [htext]
    refine readValue?_of_items (fun tail => ?_) fun hlimit =>
      readItems?_joined hlayout (hlayout.breaks depth) hlimit (by simp) h ?_
    · obtain ⟨more, hmore⟩ := @exists_toList_joined_cons layout (depth + 1)
        (render layout (depth + 1) v) (renderItems layout (depth + 1) items)
      rw [renderItems, hmore, List.append_assoc, skipBlanks_append (hlayout.breaks _),
        List.append_assoc]
      exact (h v (by simp)).not_closing _ tail
    · simp only [List.length_cons, List.length_append, List.length_nil] at hfuel
      omega

theorem readsAs_table (hlayout : layout.Airy) {entries : List (String × Value)}
    (hnodup : (entries.map Prod.fst).Nodup)
    (h : ∀ e ∈ entries, ReadsAs (render layout (depth + 1) e.2) e.2) :
    ReadsAs (render layout depth (.table entries)) (.table entries) := by
  refine ⟨fun rest tail => ?_, fun {fuel outer rest} hfuel houter _ => ?_⟩
  · rw [render]
    exact bracketed_ne_closing rfl rfl (by decide) rest tail
  obtain ⟨fuel, rfl⟩ : ∃ n, fuel = n + 1 := ⟨fuel - 1, by omega⟩
  cases entries with
  | nil =>
    rw [render, renderEntries, bracketed, if_pos rfl, readValue?, Value.depth, Value.entriesDepth]
    rfl
  | cons e entries =>
    have hne : renderEntries layout (depth + 1) (e :: entries) ≠ [] := by simp [renderEntries]
    have htext := @toList_bracketed_append layout depth "\x7b" "\x7d" _ '{' '}' rfl rfl hne
    rw [render] at hfuel ⊢
    rw [← List.append_nil (String.toList _), htext] at hfuel
    rw [htext]
    refine readValue?_of_entries hnodup (fun tail => ?_) fun hlimit =>
      readEntries?_joined hlayout (hlayout.breaks depth) hlimit (by simp) h ?_
    · obtain ⟨key, v⟩ := e
      obtain ⟨more, hmore⟩ := @exists_toList_joined_cons layout (depth + 1)
        (quote key ++ layout.colon ++ render layout (depth + 1) v)
        (renderEntries layout (depth + 1) entries)
      rw [renderEntries, hmore, List.append_assoc, skipBlanks_append (hlayout.breaks _)]
      -- an entry begins with the quote of its key
      simp only [String.toList_append, toList_quote, List.cons_append]
      rw [skipBlanks_cons rfl]
      exact fun heq => absurd (List.cons.inj heq).1 (by decide)
    · simp only [List.length_cons, List.length_append, List.length_nil] at hfuel
      omega

/-- Plain data is read back from its text, whatever stands behind it. -/
theorem readsAs_render (hlayout : layout.Airy) {allowed : String → Prop} {v : Value}
    (h : v.Plain allowed) : ReadsAs (render layout depth v) v := by
  induction h generalizing depth with
  | bool b => rw [render]; exact readsAs_bool b
  | integer low high => rw [render]; exact readsAs_integer low high
  | text s => rw [render]; exact readsAs_text s
  | list _ ih => exact readsAs_list hlayout fun v hv => ih v hv
  | table nodup _ _ ih => exact readsAs_table hlayout nodup fun e he => ih e he

/-- Plain data is read back from its text exactly if its depth is within the limit. -/
theorem parse?_render (hlayout : layout.Airy) {allowed : String → Prop} {v : Value}
    (h : v.Plain allowed) :
    parse? (render layout depth v) = if v.depth < depthLimit then some v else none := by
  have hends : EndsNumber [] := fun c hc => by simp at hc
  have hread := (@readsAs_render layout depth hlayout allowed v h).reads
    (show _ < 2 * (render layout depth v).toList.length + 2 by omega)
    (show 0 < depthLimit by decide) hends
  rw [List.append_nil, Nat.zero_add] at hread
  rw [parse?, hread]
  by_cases hdepth : v.depth < depthLimit
  · simp only [if_pos hdepth]
    rfl
  · simp only [if_neg hdepth]

end Data

end Json

end CommandTemplates
