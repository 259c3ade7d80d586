import ChartParams.Json.Path

/-!
# Splitting and joining paths

Every path is spelled by the keys that it is split into, so no two paths name the same keys. The
lists of keys that a path can name are those in which no key but the last ends with a backslash:
before the dot that follows the key, the backslash would be read as the escape of that dot.
-/

namespace ChartParams

namespace Path

variable {c : Char} {path key tail : List Char} {keys rest : List (List Char)}

theorem splitChars_dot (path : List Char) : splitChars ('.' :: path) = [] :: splitChars path := by
  rw [splitChars]

theorem splitChars_escapedDot (path : List Char) :
    splitChars ('\\' :: '.' :: path) = extendFirst '.' (splitChars path) := by
  rw [splitChars]

theorem splitChars_literal (notDot : c ≠ '.') (unescaped : c = '\\' → path.head? ≠ some '.') :
    splitChars (c :: path) = extendFirst c (splitChars path) := by
  rw [splitChars]
  · rintro more rfl rfl
    exact unescaped rfl rfl
  · exact notDot

theorem escapeDots_literal (notDot : c ≠ '.') (key : List Char) :
    escapeDots (c :: key) = c :: escapeDots key := by
  rw [escapeDots]
  exact notDot

theorem escapeDots_cons (c : Char) (key : List Char) :
    escapeDots (c :: key) = escapeDots [c] ++ escapeDots key := by
  by_cases isDot : c = '.'
  · rw [isDot]
    rfl
  · rw [escapeDots_literal isDot, escapeDots_literal isDot]
    rfl

theorem joinChars_cons (key : List Char) (nonempty : keys ≠ []) :
    joinChars (key :: keys) = escapeDots key ++ '.' :: joinChars keys := by
  rw [joinChars]
  exact nonempty

theorem joinChars_extendFirst (c : Char) (nonempty : keys ≠ []) :
    joinChars (extendFirst c keys) = escapeDots [c] ++ joinChars keys := by
  cases keys with
  | nil => exact absurd rfl nonempty
  | cons key rest =>
      cases rest with
      | nil => exact escapeDots_cons c key
      | cons next rest =>
          have more : next :: rest ≠ [] := List.cons_ne_nil next rest
          rw [extendFirst, joinChars_cons _ more, joinChars_cons _ more, escapeDots_cons,
            List.append_assoc]

theorem joinChars_splitChars (path : List Char) : joinChars (splitChars path) = path := by
  fun_induction splitChars path with
  | case1 => rfl
  | case2 rest inductionHypothesis =>
      rw [joinChars_extendFirst '.' (splitChars_ne_nil rest), inductionHypothesis]
      rfl
  | case3 rest inductionHypothesis =>
      rw [joinChars_cons [] (splitChars_ne_nil rest), inductionHypothesis]
      rfl
  | case4 c rest unescaped notDot inductionHypothesis =>
      rw [joinChars_extendFirst c (splitChars_ne_nil rest), inductionHypothesis,
        escapeDots_literal notDot]
      rfl

theorem foldr_extendFirst (key first : List Char) (rest : List (List Char)) :
    key.foldr extendFirst (first :: rest) = (key ++ first) :: rest := by
  induction key with
  | nil => rfl
  | cons c more inductionHypothesis =>
      rw [List.foldr_cons, inductionHypothesis]
      rfl

theorem head?_escapeDots_append (nonempty : key ≠ []) :
    (escapeDots key ++ tail).head? ≠ some '.' := by
  fun_cases escapeDots key with
  | case1 => exact absurd rfl nonempty
  | case2 rest => simp
  | case3 c rest notDot => simpa using notDot

/-- An escaped key is read as the key, put in front of what follows it, unless a backslash at its
end meets a dot. -/
theorem splitChars_escapeDots_append
    (separate : key.getLast? = some '\\' → tail.head? ≠ some '.') :
    splitChars (escapeDots key ++ tail) = key.foldr extendFirst (splitChars tail) := by
  induction key with
  | nil => rfl
  | cons c more inductionHypothesis =>
      have separateMore : more.getLast? = some '\\' → tail.head? ≠ some '.' := by
        intro isLast
        apply separate
        rw [List.getLast?_cons, isLast, Option.getD_some]
      have read := inductionHypothesis separateMore
      by_cases isDot : c = '.'
      · rw [isDot, List.foldr_cons, ← read]
        exact splitChars_escapedDot (escapeDots more ++ tail)
      · have unescaped : c = '\\' → (escapeDots more ++ tail).head? ≠ some '.' := by
          rintro rfl
          cases more with
          | nil => exact separate rfl
          | cons next more => exact head?_escapeDots_append (List.cons_ne_nil next more)
        rw [escapeDots_literal isDot, List.cons_append, splitChars_literal isDot unescaped, read,
          List.foldr_cons]

/-- No key but the last ends with a backslash. -/
def Separable (keys : List (List Char)) : Prop :=
  ∀ key ∈ keys.dropLast, key.getLast? ≠ some '\\'

instance (keys : List (List Char)) : Decidable (Separable keys) :=
  inferInstanceAs (Decidable (∀ key ∈ keys.dropLast, key.getLast? ≠ some '\\'))

theorem separable_singleton (key : List Char) : Separable [key] := by
  simp [Separable]

theorem separable_cons_iff (nonempty : keys ≠ []) :
    Separable (key :: keys) ↔ key.getLast? ≠ some '\\' ∧ Separable keys := by
  rw [Separable, List.dropLast_cons_of_ne_nil nonempty, List.forall_mem_cons, Separable]

theorem splitChars_joinChars (nonempty : keys ≠ []) (separable : Separable keys) :
    splitChars (joinChars keys) = keys := by
  induction keys with
  | nil => exact absurd rfl nonempty
  | cons key rest inductionHypothesis =>
      cases rest with
      | nil =>
          have separate : key.getLast? = some '\\' → [].head? ≠ some '.' := fun _ => nofun
          have read := splitChars_escapeDots_append separate
          rwa [List.append_nil, splitChars, foldr_extendFirst, List.append_nil] at read
      | cons next rest =>
          have more : next :: rest ≠ [] := List.cons_ne_nil next rest
          obtain ⟨separate, restSeparable⟩ := (separable_cons_iff more).mp separable
          rw [joinChars_cons key more,
            splitChars_escapeDots_append fun isLast => absurd isLast separate, splitChars_dot,
            foldr_extendFirst, List.append_nil, inductionHypothesis more restSeparable]

/-- A path starts with a dot if its first key is empty and another one follows. -/
theorem head?_of_splitChars (nonempty : rest ≠ []) (split : splitChars path = [] :: rest) :
    path.head? = some '.' := by
  have first_ne_nil (c : Char) (keys : List (List Char)) : extendFirst c keys ≠ [] :: rest := by
    cases keys <;> simp [extendFirst]
  fun_cases splitChars path with
  | case1 =>
      rw [splitChars, List.cons.injEq] at split
      exact absurd split.2.symm nonempty
  | case2 more =>
      rw [splitChars_escapedDot] at split
      exact absurd split (first_ne_nil _ _)
  | case3 more => rfl
  | case4 c more unescaped notDot =>
      rw [splitChars] at split
      · exact absurd split (first_ne_nil _ _)
      · exact unescaped
      · exact notDot

theorem Separable.extendFirst (separable : Separable keys)
    (separate : c = '\\' → ∀ rest, rest ≠ [] → keys ≠ [] :: rest) :
    Separable (extendFirst c keys) := by
  cases keys with
  | nil => exact separable_singleton [c]
  | cons key rest =>
      cases rest with
      | nil => exact separable_singleton (c :: key)
      | cons next rest =>
          have more : next :: rest ≠ [] := List.cons_ne_nil next rest
          obtain ⟨keySeparate, restSeparable⟩ := (separable_cons_iff more).mp separable
          refine (separable_cons_iff more).mpr ⟨?_, restSeparable⟩
          cases key with
          | nil =>
              intro isLast
              exact separate (Option.some.inj isLast) (next :: rest) more rfl
          | cons d key => rwa [List.getLast?_cons_cons]

theorem separable_splitChars (path : List Char) : Separable (splitChars path) := by
  fun_induction splitChars path with
  | case1 => exact separable_singleton []
  | case2 rest inductionHypothesis => exact inductionHypothesis.extendFirst nofun
  | case3 rest inductionHypothesis =>
      exact (separable_cons_iff (splitChars_ne_nil rest)).mpr ⟨nofun, inductionHypothesis⟩
  | case4 c rest unescaped notDot inductionHypothesis =>
      apply inductionHypothesis.extendFirst
      intro isBackslash keys nonempty split
      have startsWithDot := head?_of_splitChars nonempty split
      cases rest with
      | nil => cases startsWithDot
      | cons next rest =>
          cases startsWithDot
          exact unescaped rest isBackslash rfl

/-- The lists of keys that a path can name. -/
def IsAddressable (keys : List String) : Prop :=
  keys ≠ [] ∧ Separable (keys.map String.toList)

instance (keys : List String) : Decidable (IsAddressable keys) :=
  inferInstanceAs (Decidable (keys ≠ [] ∧ Separable (keys.map String.toList)))

theorem toList_split (path : String) : (split path).map String.toList = splitChars path.toList := by
  simp [split]

/-- Splitting and joining are inverse to each other, between all paths and the lists of keys in
which no key but the last ends with a backslash. -/
theorem join_split (path : String) (keys : List String) :
    join (split path) = path ∧ IsAddressable (split path) ∧
      (IsAddressable keys → split (join keys) = keys) := by
  refine ⟨?_, ⟨split_ne_nil path, ?_⟩, ?_⟩
  · rw [join, toList_split, joinChars_splitChars, String.ofList_toList]
  · rw [toList_split]
    exact separable_splitChars path.toList
  · rintro ⟨nonempty, separable⟩
    have charsNonempty : keys.map String.toList ≠ [] := by simpa using nonempty
    rw [split, join, String.toList_ofList, splitChars_joinChars charsNonempty separable]
    simp

/-- A key with a backslash before its dot, a dot alone, an empty key and a backslash at the end of
the last key. With a backslash at its end a key runs into the next one. -/
theorem join_split_backslashes :
    let keys := ["a\\.b", ".", "", "c\\"]
    IsAddressable keys ∧ join keys = "a\\\\.b.\\...c\\" ∧ split (join keys) = keys ∧
      ¬IsAddressable ["a\\", "b"] ∧ split (join ["a\\", "b"]) = ["a.b"] := by
  intro keys
  have addressable : IsAddressable keys := by decide +kernel
  have backslashAtEnd : ¬IsAddressable ["a\\", "b"] := by decide +kernel
  exact ⟨addressable, by decide +kernel, (join_split "" keys).2.2 addressable, backslashAtEnd,
    by decide +kernel⟩

end Path

end ChartParams
