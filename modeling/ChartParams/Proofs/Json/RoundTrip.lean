import ChartParams.Proofs.Json.Extension
import ChartParams.Proofs.Json.Reading
import ChartParams.Proofs.Json.Sameness

/-!
# Documents that are read back

A document is read back from its text if no object in it names a key twice, it is not nested too
deep, and its floats are read back from their texts. The parts of a document are read back one after
the other, each with the texts of the later ones after it.
-/

namespace ChartParams

namespace Json

/-! ## Nesting and parts -/

mutual

/-- How many containers are inside each other. -/
def nesting : Json → Nat
  | null | bool _ | num _ | str _ => 0
  | arr items => nestingItems items + 1
  | obj members => nestingMembers members + 1

def nestingItems : List Json → Nat
  | [] => 0
  | item :: rest => max (nesting item) (nestingItems rest)

def nestingMembers : List (String × Json) → Nat
  | [] => 0
  | (_, value) :: rest => max (nesting value) (nestingMembers rest)

end

variable {depth : Nat} {doc part : Json} {items : List Json} {members : Members}

theorem nesting_arr_le_iff :
    (arr items).nesting ≤ depth + 1 ↔ ∀ item ∈ items, item.nesting ≤ depth := by
  rw [nesting, Nat.succ_le_succ_iff]
  induction items with
  | nil => simp [nestingItems]
  | cons item rest inductionHypothesis => simp [nestingItems, inductionHypothesis]

theorem nesting_obj_le_iff :
    (obj members).nesting ≤ depth + 1 ↔ ∀ member ∈ members, member.2.nesting ≤ depth := by
  rw [nesting, Nat.succ_le_succ_iff]
  induction members with
  | nil => simp [nestingMembers]
  | cons member rest inductionHypothesis => simp [nestingMembers, inductionHypothesis]

/-- A document stands somewhere in another one. -/
inductive IsPart (part : Json) : Json → Prop
  | self : IsPart part part
  | item {item : Json} {items : List Json} :
      item ∈ items → IsPart part item → IsPart part (arr items)
  | member {member : String × Json} {members : Members} :
      member ∈ members → IsPart part member.2 → IsPart part (obj members)

/-- Every float of a document is what its text spells. -/
def FloatsReparse (doc : Json) : Prop :=
  ∀ x finite, IsPart (num (.float x finite)) doc →
    parse (num (.float x finite)).compact = .ok (num (.float x finite))

theorem FloatsReparse.item {item : Json} (reparse : (arr items).FloatsReparse)
    (present : item ∈ items) : item.FloatsReparse :=
  fun x finite isPart => reparse x finite (.item present isPart)

theorem FloatsReparse.member {member : String × Json} (reparse : (obj members).FloatsReparse)
    (present : member ∈ members) : member.2.FloatsReparse :=
  fun x finite isPart => reparse x finite (.member present isPart)

/-! ## The parts of a text -/

theorem compactItems_eq_map (items : List Json) : compactItems items = items.map compact := by
  induction items with
  | nil => rfl
  | cons item rest inductionHypothesis => rw [compactItems, inductionHypothesis, List.map_cons]

def memberText (member : String × Json) : String := quote member.1 ++ ":" ++ member.2.compact

theorem compactMembers_eq_map (members : Members) :
    compactMembers members = members.map memberText := by
  induction members with
  | nil => rfl
  | cons member rest inductionHypothesis =>
      rw [compactMembers, inductionHypothesis, List.map_cons, memberText]

/-- Texts with a comma in front of each, and a closing mark after them. -/
def separated (close : Char) (texts : List String) : List Char :=
  texts.flatMap (fun text => ',' :: text.toList) ++ [close]

theorem intercalate_append_close (close : Char) (first : String) (others : List String) :
    (",".intercalate (first :: others)).toList ++ [close] =
      first.toList ++ separated close others := by
  rw [String.toList_intercalate]
  induction others generalizing first with
  | nil => simp [separated]
  | cons second others inductionHypothesis =>
      rw [List.map_cons, List.map_cons, List.intercalate_cons_cons, List.append_assoc,
        ← List.map_cons, inductionHypothesis]
      simp [separated]

theorem toList_compact_arr (item : Json) (items : List Json) :
    (arr (item :: items)).compact.toList =
      '[' :: (item.compact.toList ++ separated ']' (items.map compact)) := by
  rw [compact, compactItems_eq_map, List.map_cons, String.toList_append, String.toList_append,
    List.append_assoc]
  exact congrArg ('[' :: ·) (intercalate_append_close ']' _ _)

theorem toList_compact_obj (member : String × Json) (members : Members) :
    (obj (member :: members)).compact.toList =
      '\x7b' :: ((memberText member).toList ++ separated '\x7d' (members.map memberText)) := by
  rw [compact, compactMembers_eq_map, List.map_cons, String.toList_append, String.toList_append,
    List.append_assoc]
  exact congrArg ('\x7b' :: ·) (intercalate_append_close '\x7d' _ _)

theorem exists_compact_eq_cons (doc : Json) :
    ∃ c rest, doc.compact.toList = c :: rest ∧ isSpace c = false ∧ c ≠ ']' := by
  cases doc with
  | null => exact ⟨'n', _, rfl, by decide⟩
  | bool value => cases value <;> exact ⟨_, _, rfl, by decide⟩
  | num n =>
      obtain ⟨c, rest, isText, starts⟩ := startsNumber_text n
      refine ⟨c, rest, isText, not_isSpace_of_startsNumber starts, ?_⟩
      rintro rfl
      simp [StartsNumber] at starts
  | str text => exact ⟨'"', _, toList_quote text, by decide⟩
  | arr items =>
      rw [compact, String.append_assoc, String.toList_append]
      exact ⟨'[', _, rfl, by decide⟩
  | obj members =>
      rw [compact, String.append_assoc, String.toList_append]
      exact ⟨'\x7b', _, rfl, by decide⟩

theorem skipSpace_compact (doc : Json) (rest : List Char) :
    skipSpace (doc.compact.toList ++ rest) = doc.compact.toList ++ rest := by
  obtain ⟨c, others, isText, notSpace, -⟩ := exists_compact_eq_cons doc
  rw [isText]
  exact skipSpace_cons notSpace _

/-! ## Reading what was written -/

/-- A document is read from its text, whatever is put after the text. Blanks at the front of that
may be taken with it. -/
def ReadsBack (depth : Nat) (doc : Json) : Prop :=
  ∀ rest, EndsNumber rest →
    ∃ after, value depth (doc.compact.toList ++ rest) = some (doc, after) ∧
      skipSpace after = skipSpace rest

theorem readsBack_num {n : Number} (reparse : parse (num n).compact = .ok (num n)) :
    ReadsBack depth (num n) := by
  intro rest ends
  obtain ⟨c, others, isText, starts⟩ := startsNumber_text n
  rw [parse_eq_ok_iff, compact, parse?_of_startsNumber isText starts] at reparse
  obtain ⟨⟨found, blanks⟩, read, complete⟩ := Option.bind_eq_some_iff.mp reparse
  dsimp only at complete
  split at complete
  case isFalse => cases complete
  case isTrue onlyBlanks =>
    cases complete
    refine ⟨blanks ++ rest, ?_, ?_⟩
    · rw [compact, isText, List.cons_append, value_of_startsNumber starts]
      exact extends_number read ends
    · rw [skipSpace, List.dropWhile_append]
      exact if_pos onlyBlanks

theorem readsBack_str (text : String) : ReadsBack depth (str text) := by
  intro rest _
  refine ⟨rest, ?_, rfl⟩
  rw [compact, toList_quote, List.cons_append, List.append_assoc, List.singleton_append, value,
    string_escaped]
  rfl

theorem separated_eq_cons (close : Char) (isClose : close ∈ [']', '\x7d']) (texts : List String) :
    ∃ c others, separated close texts = c :: others ∧ c ∈ [',', ']', '\x7d'] := by
  cases texts with
  | nil => exact ⟨close, [], rfl, List.mem_cons_of_mem _ isClose⟩
  | cons text texts => exact ⟨',', _, rfl, List.mem_cons_self⟩

/-- What follows an item or a member goes on with no number and starts with no blank. -/
theorem separated_append (close : Char) (isClose : close ∈ [']', '\x7d']) (texts : List String)
    (rest : List Char) :
    EndsNumber (separated close texts ++ rest) ∧
      skipSpace (separated close texts ++ rest) = separated close texts ++ rest := by
  have marks : ∀ c ∈ [',', ']', '\x7d'], isSpace c = false ∧ c.isDigit = false ∧ c ≠ '.' ∧
      c ≠ 'e' ∧ c ≠ 'E' := by simp [isSpace]
  obtain ⟨c, others, isText, isMark⟩ := separated_eq_cons close isClose texts
  rw [isText]
  constructor
  · rintro d ⟨⟩
    exact (marks c isMark).2
  · exact skipSpace_cons (marks c isMark).1 _

theorem length_lt_separated (close : Char) (texts : List String) :
    texts.length < (separated close texts).length := by
  induction texts with
  | nil => exact Nat.zero_lt_one
  | cons text texts inductionHypothesis =>
      simp only [separated, List.flatMap_cons, List.length_append, List.length_cons] at *
      omega

theorem length_lt_of_skipSpace {text rest : List Char} {close : Char} {texts : List String}
    (start : skipSpace text = separated close texts ++ rest) :
    texts.length < text.length := by
  have shorter : (skipSpace text).length ≤ text.length := List.length_dropWhile_le _ _
  have more := length_lt_separated close texts
  rw [start, List.length_append] at shorter
  omega

theorem moreItems_comma {value : Reader Json} {done : List Json} {item : Json} {room : Nat}
    {text rest after : List Char} (start : skipSpace text = ',' :: rest)
    (read : value (skipSpace rest) = some (item, after)) :
    moreItems value done (room + 1) text = moreItems value (item :: done) room after := by
  rw [moreItems, start]
  change (value (skipSpace rest)).bind _ = _
  rw [read]
  rfl

theorem moreItems_separated (each : ∀ item ∈ items, ReadsBack depth item) {room : Nat}
    (enough : items.length < room) {done : List Json} {text rest : List Char}
    (start : skipSpace text = separated ']' (items.map compact) ++ rest) :
    moreItems (value depth) done room text = some (done.reverse ++ items, rest) := by
  induction items generalizing room done text with
  | nil =>
      obtain ⟨room, rfl⟩ := Nat.exists_eq_succ_of_ne_zero (Nat.ne_zero_of_lt enough)
      rw [moreItems, start, List.append_nil]
      rfl
  | cons item items inductionHypothesis =>
      obtain ⟨room, rfl⟩ := Nat.exists_eq_succ_of_ne_zero (Nat.ne_zero_of_lt enough)
      rw [List.forall_mem_cons] at each
      obtain ⟨ends, unspaced⟩ := separated_append ']' (by decide) (items.map compact) rest
      obtain ⟨after, read, skipped⟩ := each.1 _ ends
      have isText : skipSpace text =
          ',' :: (item.compact.toList ++ (separated ']' (items.map compact) ++ rest)) := by
        simp [start, separated]
      rw [← skipSpace_compact] at read
      rw [moreItems_comma isText read,
        inductionHypothesis each.2 (Nat.lt_of_succ_lt_succ enough) (skipped.trans unspaced)]
      simp

theorem items_of_read {value : Reader Json} {item : Json} {c : Char} {rest after : List Char}
    (notSpace : isSpace c = false) (notClose : c ≠ ']')
    (read : value (c :: rest) = some (item, after)) :
    Json.items value (c :: rest) = moreItems value [item] (after.length + 1) after := by
  unfold Json.items
  rw [skipSpace_cons notSpace]
  split
  · rename_i isClose
    exact absurd (List.cons.inj isClose).1 notClose
  · rw [read]
    rfl

theorem readsBack_arr (each : ∀ item ∈ items, ReadsBack depth item) :
    ReadsBack (depth + 1) (arr items) := by
  intro rest _
  refine ⟨rest, ?_, rfl⟩
  cases items with
  | nil => rfl
  | cons item items =>
      rw [List.forall_mem_cons] at each
      obtain ⟨ends, unspaced⟩ := separated_append ']' (by decide) (items.map compact) rest
      obtain ⟨after, read, skipped⟩ := each.1 _ ends
      have start := skipped.trans unspaced
      have enough : items.length < after.length + 1 := by
        simpa using Nat.lt_succ_of_lt (length_lt_of_skipSpace start)
      obtain ⟨c, others, isText, notSpace, notClose⟩ := exists_compact_eq_cons item
      rw [toList_compact_arr, List.cons_append, List.append_assoc, value]
      rw [isText, List.cons_append] at read ⊢
      rw [items_of_read notSpace notClose read, moreItems_separated each.2 enough start]
      rfl

theorem memberText_append (member : String × Json) (rest : List Char) :
    (memberText member).toList ++ rest =
      '"' :: (member.1.toList.flatMap escapeChar ++ '"' :: ':' ::
        (member.2.compact.toList ++ rest)) := by
  simp [memberText, toList_quote]

theorem exists_member_read {entry : String × Json} (readsBack : ReadsBack depth entry.2)
    {rest : List Char} (ends : EndsNumber rest) :
    ∃ after, member (value depth) ((memberText entry).toList ++ rest) = some (entry, after) ∧
      skipSpace after = skipSpace rest := by
  obtain ⟨after, read, skipped⟩ := readsBack rest ends
  refine ⟨after, ?_, skipped⟩
  have colon : skipSpace (':' :: (entry.2.compact.toList ++ rest)) =
      ':' :: (entry.2.compact.toList ++ rest) := rfl
  rw [memberText_append, member, string_escaped, Option.bind_eq_bind, Option.bind_some]
  dsimp only
  rw [colon]
  change (value depth (skipSpace _)).bind _ = _
  rw [skipSpace_compact, read]
  rfl

theorem moreMembers_comma {value : Reader Json} {done : Members} {entry : String × Json}
    {room : Nat} {text rest after : List Char} (start : skipSpace text = ',' :: rest)
    (read : member value (skipSpace rest) = some (entry, after)) :
    moreMembers value done (room + 1) text =
      moreMembers value (done.put entry.1 entry.2) room after := by
  rw [moreMembers, start]
  change (member value (skipSpace rest)).bind _ = _
  rw [read]
  rfl

theorem skipSpace_memberText (entry : String × Json) (rest : List Char) :
    skipSpace ((memberText entry).toList ++ rest) = (memberText entry).toList ++ rest := by
  rw [memberText_append]
  rfl

theorem moreMembers_separated (each : ∀ entry ∈ members, ReadsBack depth entry.2) {room : Nat}
    (enough : members.length < room) {done : Members} (distinct : (done ++ members).keys.Nodup)
    {text rest : List Char}
    (start : skipSpace text = separated '\x7d' (members.map memberText) ++ rest) :
    moreMembers (value depth) done room text = some (done ++ members, rest) := by
  induction members generalizing room done text with
  | nil =>
      obtain ⟨room, rfl⟩ := Nat.exists_eq_succ_of_ne_zero (Nat.ne_zero_of_lt enough)
      rw [moreMembers, start, List.append_nil]
      rfl
  | cons entry members inductionHypothesis =>
      obtain ⟨room, rfl⟩ := Nat.exists_eq_succ_of_ne_zero (Nat.ne_zero_of_lt enough)
      rw [List.forall_mem_cons] at each
      obtain ⟨ends, unspaced⟩ :=
        separated_append '\x7d' (by decide) (members.map memberText) rest
      obtain ⟨after, read, skipped⟩ := exists_member_read each.1 ends
      have isText : skipSpace text = ',' :: ((memberText entry).toList ++
          (separated '\x7d' (members.map memberText) ++ rest)) := by
        simp [start, separated]
      rw [← skipSpace_memberText] at read
      have fresh : entry.1 ∉ done.keys := by
        rw [Members.keys, List.map_append, List.nodup_append] at distinct
        exact fun present => distinct.2.2 _ present _ List.mem_cons_self rfl
      rw [List.append_cons] at distinct ⊢
      rw [moreMembers_comma isText read, Members.put_of_fresh fresh]
      exact inductionHypothesis each.2 (Nat.lt_of_succ_lt_succ enough) distinct
        (skipped.trans unspaced)

theorem members_of_read {value : Reader Json} {entry : String × Json} {rest after : List Char}
    (read : member value ('"' :: rest) = some (entry, after)) :
    Json.members value ('"' :: rest) = moreMembers value [entry] (after.length + 1) after := by
  unfold Json.members
  change (member value ('"' :: rest)).bind _ = _
  rw [read]
  rfl

theorem readsBack_obj (distinct : members.keys.Nodup)
    (each : ∀ entry ∈ members, ReadsBack depth entry.2) :
    ReadsBack (depth + 1) (obj members) := by
  intro rest _
  refine ⟨rest, ?_, rfl⟩
  cases members with
  | nil => rfl
  | cons entry members =>
      rw [List.forall_mem_cons] at each
      obtain ⟨ends, unspaced⟩ :=
        separated_append '\x7d' (by decide) (members.map memberText) rest
      obtain ⟨after, read, skipped⟩ := exists_member_read each.1 ends
      have start := skipped.trans unspaced
      have enough : members.length < after.length + 1 := by
        simpa using Nat.lt_succ_of_lt (length_lt_of_skipSpace start)
      rw [toList_compact_obj, List.cons_append, List.append_assoc, value]
      rw [memberText_append] at read ⊢
      rw [members_of_read read, moreMembers_separated each.2 enough distinct start]
      rfl

/-- A document is read back if it is well formed, not nested too deep, and its floats are read
back. -/
theorem readsBack (wellFormed : doc.WellFormed) (shallow : doc.nesting ≤ depth)
    (reparse : doc.FloatsReparse) : ReadsBack depth doc := by
  induction doc using induction_parts generalizing depth with
  | null => exact fun rest _ => ⟨rest, by cases depth <;> rfl, rfl⟩
  | bool value => cases value <;> exact fun rest _ => ⟨rest, by cases depth <;> rfl, rfl⟩
  | num n =>
      cases n with
      | int n range => exact readsBack_num (parse_int range)
      | float x finite => exact readsBack_num (reparse x finite .self)
  | str text => exact readsBack_str text
  | arr items inductionHypothesis =>
      cases depth with
      | zero => cases shallow
      | succ depth =>
          rw [nesting_arr_le_iff] at shallow
          have each := allWellFormed_iff.mp wellFormed
          exact readsBack_arr fun item present =>
            inductionHypothesis item present (each item present) (shallow item present)
              (reparse.item present)
  | obj members inductionHypothesis =>
      cases depth with
      | zero => cases shallow
      | succ depth =>
          rw [nesting_obj_le_iff] at shallow
          have each := membersWellFormed_iff.mp wellFormed.2
          exact readsBack_obj wellFormed.1 fun entry present =>
            inductionHypothesis entry present (each entry present) (shallow entry present)
              (reparse.member present)

theorem parse_compact (wellFormed : doc.WellFormed) (shallow : doc.nesting ≤ maxNesting)
    (reparse : doc.FloatsReparse) : parse doc.compact = .ok doc := by
  obtain ⟨after, read, skipped⟩ := readsBack wellFormed shallow reparse [] nofun
  have unspaced := skipSpace_compact doc []
  rw [List.append_nil] at read unspaced
  rw [parse_eq_ok_iff, parse?, parseWithin?, unspaced, read]
  change (if (skipSpace after).isEmpty then some doc else none) = some doc
  rw [skipped]
  rfl

/-- A document that is read within a depth is not nested deeper. -/
theorem nesting_le_of_value {text rest : List Char}
    (success : value depth text = some (doc, rest)) : doc.nesting ≤ depth :=
  value_induction (motive := fun depth doc => doc.nesting ≤ depth) (fun _ => Nat.zero_le _)
    (fun _ _ => Nat.zero_le _) (fun _ _ => Nat.zero_le _) (fun _ _ => Nat.zero_le _)
    (fun _ _ each => nesting_arr_le_iff.mpr each) (fun _ _ _ each => nesting_obj_le_iff.mpr each)
    depth text doc rest success

theorem nesting_le_of_parse {text : String} (parsed : parse text = .ok doc) :
    doc.nesting ≤ maxNesting := by
  obtain ⟨rest, read⟩ := exists_value_of_parse? (parse_eq_ok_iff.mp parsed)
  exact nesting_le_of_value read

end Json

end ChartParams
