import Mathlib.Data.List.Induction
import SchemaBlueprint.Proofs.RegisteredType

/-!
Which entry answers the look-up of a type. What a registry answers depends only on the meaning that
each key was given last: it is the meaning of the longest key that is the base name of the type, or
that the base name begins with as whole words. So the order in which different keys are registered
makes no difference, and neither does the order in which a table of the keys is searched.
-/

namespace SchemaBlueprint.Catalog.TypeRegistry

set_option autoImplicit false

open StorageType (baseName)

def registerAll (registry : TypeRegistry) (registrations : List (String × String)) : TypeRegistry :=
  registrations.foldl (fun registry entry => registry.register entry.1 entry.2) registry

/-- The registrations of types whose lower case is `key`, the latest of them last. -/
def registeredUnder (registrations : List (String × String)) (key : String) :
    List (String × String) :=
  registrations.filter fun entry => Text.lower entry.1 = key

/-- What a key means: what was registered last under it, and else what it means from the start. -/
def lastMeaning? (registrations : List (String × String)) (key : String) : Option String :=
  ((registeredUnder registrations key).getLast?.map (·.2)).or (standardEntries.lookup key)

/-- The keys that are known from the start, and the lower case of every type that was registered. -/
def knownKeys (registrations : List (String × String)) : List String :=
  standardEntries.map (·.1) ++ registrations.map fun entry => Text.lower entry.1

def Begins (key name : String) : Prop := key.toList ++ [' '] <+: name.toList

instance : DecidableRel Begins := fun key name =>
  inferInstanceAs (Decidable (key.toList ++ [' '] <+: name.toList))

/-- Of the keys that are the name, or that the name begins with as whole words, this is the
longest. -/
structure IsLongestKey (keys : List String) (name key : String) : Prop where
  known : key ∈ keys
  covers : key = name ∨ Begins key name
  longest : ∀ other ∈ keys, other = name ∨ Begins other name → other.length ≤ key.length

theorem covers_name_iff {key name : String} :
    coversName key.toList name.toList = true ↔ key = name ∨ Begins key name := by
  rw [covers_iff, Begins, String.toList_inj, eq_comm]

theorem chars_prefix_of_covers {key name : String} (covers : key = name ∨ Begins key name) :
    key.toList <+: name.toList :=
  prefix_of_covers (covers_name_iff.mpr covers)

theorem Begins.chars_prefix {key name : String} (begins : Begins key name) :
    key.toList <+: name.toList :=
  chars_prefix_of_covers (.inr begins)

theorem IsLongestKey.unique {keys : List String} {name key other : String}
    (first : IsLongestKey keys name key) (second : IsLongestKey keys name other) : key = other := by
  have below := first.longest other second.known second.covers
  have above := second.longest key first.known first.covers
  have same : key.toList.length = other.toList.length := by
    rw [String.length_toList, String.length_toList]
    omega
  have within := List.prefix_of_prefix_length_le (chars_prefix_of_covers first.covers)
    (chars_prefix_of_covers second.covers) (Nat.le_of_eq same)
  exact String.toList_inj.mp (within.eq_of_length same)

theorem IsLongestKey.congr {keys others : List String} (same : ∀ key, key ∈ keys ↔ key ∈ others)
    {name key : String} (best : IsLongestKey keys name key) : IsLongestKey others name key where
  known := (same key).mp best.known
  covers := best.covers
  longest := fun other listed => best.longest other ((same other).mpr listed)

theorem longest_none_iff {entries : List (String × String)} :
    longest? entries = none ↔ entries = [] := by
  cases entries with
  | nil => simp [longest?]
  | cons entry rest =>
      rw [longest?]
      split <;> simp

theorem longest_split {entries : List (String × String)} {best : String × String}
    (chosen : longest? entries = some best) :
    ∃ front back, entries = front ++ best :: back ∧
      (∀ entry ∈ front, entry.1.length < best.1.length) ∧
      ∀ entry ∈ back, entry.1.length ≤ best.1.length := by
  -- An entry is compared with the best of those behind it, and wins when the lengths are equal.
  induction entries generalizing best with
  | nil => cases chosen
  | cons entry rest ih =>
      rw [longest?] at chosen
      split at chosen
      · rename_i nothing
        cases chosen
        rw [longest_none_iff.mp nothing]
        exact ⟨[], [], rfl, by simp, by simp⟩
      · rename_i later found
        obtain ⟨front, back, split, shorter, bounded⟩ := ih found
        split at chosen
        · rename_i notLonger
          cases chosen
          refine ⟨[], rest, rfl, by simp, ?_⟩
          intro other member
          rw [split, List.mem_append, List.mem_cons] at member
          rcases member with before | rfl | behind
          · have less := shorter other before
            omega
          · exact notLonger
          · exact (bounded other behind).trans notLonger
        · rename_i longer
          cases chosen
          refine ⟨entry :: front, back, by rw [split, List.cons_append], ?_, bounded⟩
          intro other member
          rcases List.mem_cons.mp member with rfl | before
          · omega
          · exact shorter other before

theorem lookup_filter_keys (entries : List (String × String)) (kept : String → Bool) {key : String}
    (passes : kept key = true) :
    (entries.filter fun entry => kept entry.1).lookup key = entries.lookup key := by
  induction entries with
  | nil => rfl
  | cons entry rest ih =>
      by_cases same : key = entry.1
      · rw [List.filter_cons_of_pos (by rwa [← same]), List.lookup_cons, List.lookup_cons, same,
          beq_self_eq_true]
      · have different : (key == entry.1) = false := beq_eq_false_iff_ne.mpr same
        rw [List.filter_cons]
        split
        · rw [List.lookup_cons, List.lookup_cons, different, ih]
        · rw [List.lookup_cons, different, ih]

variable {registry : TypeRegistry} {type : String}

theorem chosen_is_longest {best : String × String}
    (chosen : longest? (registry.entries.filter fun entry =>
      coversName entry.1.toList (baseName type).toList) = some best) :
    IsLongestKey (registry.entries.map (·.1)) (baseName type) best.1 ∧
      registry.entries.lookup best.1 = some best.2 := by
  obtain ⟨front, back, split, shorter, bounded⟩ := longest_split chosen
  have covering := longest_mem chosen
  obtain ⟨member, covers⟩ := List.mem_filter.mp covering
  constructor
  · refine ⟨List.mem_map_of_mem member, covers_name_iff.mp covers, ?_⟩
    intro other known otherCovers
    obtain ⟨entry, listed, rfl⟩ := List.mem_map.mp known
    have passes : entry ∈ registry.entries.filter fun entry =>
        coversName entry.1.toList (baseName type).toList :=
      List.mem_filter.mpr ⟨listed, covers_name_iff.mpr otherCovers⟩
    rw [split, List.mem_append, List.mem_cons] at passes
    rcases passes with before | rfl | behind
    · exact (shorter entry before).le
    · exact le_rfl
    · exact bounded entry behind
  · have absent : front.lookup best.1 = none := by
      rw [List.lookup_eq_none_iff]
      intro entry before
      have less := shorter entry before
      rw [bne_iff_ne]
      intro same
      rw [same] at less
      omega
    have passed := lookup_filter_keys registry.entries
      (fun key => coversName key.toList (baseName type).toList) covers
    rw [← passed, split, List.lookup_append, absent, Option.none_or, List.lookup_cons,
      beq_self_eq_true]

theorem meaning_eq_some_iff {meaning : String} :
    registry.meaning? type = some meaning ↔
      ∃ key, IsLongestKey (registry.entries.map (·.1)) (baseName type) key ∧
        registry.entries.lookup key = some meaning := by
  rw [meaning?, Option.map_eq_some_iff]
  constructor
  · rintro ⟨best, chosen, rfl⟩
    exact ⟨best.1, chosen_is_longest chosen⟩
  · rintro ⟨key, longest, means⟩
    obtain ⟨entry, listed, rfl⟩ := List.mem_map.mp longest.known
    have covering : entry ∈ registry.entries.filter fun entry =>
        coversName entry.1.toList (baseName type).toList :=
      List.mem_filter.mpr ⟨listed, covers_name_iff.mpr longest.covers⟩
    cases chosen : longest? (registry.entries.filter fun entry =>
        coversName entry.1.toList (baseName type).toList) with
    | none =>
        rw [longest_none_iff.mp chosen] at covering
        cases covering
    | some best =>
        obtain ⟨bestLongest, bestMeans⟩ := chosen_is_longest chosen
        rw [bestLongest.unique longest, means] at bestMeans
        exact ⟨best, rfl, (Option.some.inj bestMeans).symm⟩

theorem mem_keys_iff {entries : List (String × String)} {key : String} :
    key ∈ entries.map (·.1) ↔ (entries.lookup key).isSome = true := by
  rw [List.lookup_isSome_iff, List.mem_map]
  constructor
  · rintro ⟨entry, listed, rfl⟩
    exact ⟨entry, listed, beq_self_eq_true _⟩
  · rintro ⟨entry, listed, same⟩
    exact ⟨entry, listed, (eq_of_beq same).symm⟩

theorem meaning_congr {registry other : TypeRegistry}
    (same : ∀ key, registry.entries.lookup key = other.entries.lookup key) (type : String) :
    registry.meaning? type = other.meaning? type := by
  have keys : ∀ key, key ∈ registry.entries.map (·.1) ↔ key ∈ other.entries.map (·.1) := by
    intro key
    rw [mem_keys_iff, mem_keys_iff, same]
  apply Option.ext
  intro meaning
  rw [meaning_eq_some_iff, meaning_eq_some_iff]
  constructor
  · rintro ⟨key, longest, means⟩
    exact ⟨key, longest.congr keys, same key ▸ means⟩
  · rintro ⟨key, longest, means⟩
    exact ⟨key, longest.congr fun key => (keys key).symm, same key ▸ means⟩

variable {registrations : List (String × String)}

theorem lookup_registered (registrations : List (String × String)) (key : String) :
    (standard.registerAll registrations).entries.lookup key = lastMeaning? registrations key := by
  -- The latest registration is the last one here and the first entry there.
  induction registrations using List.reverseRecOn with
  | nil => rfl
  | append_singleton earlier entry ih =>
      have last : standard.registerAll (earlier ++ [entry]) =
          (standard.registerAll earlier).register entry.1 entry.2 := by
        rw [registerAll, List.foldl_append]
        rfl
      rw [last, register, List.lookup_cons, ih, lastMeaning?, lastMeaning?, registeredUnder,
        registeredUnder, List.filter_append]
      by_cases same : Text.lower entry.1 = key
      · simp [same]
      · have different : (key == Text.lower entry.1) = false :=
          beq_eq_false_iff_ne.mpr (Ne.symm same)
        simp [same, different]

theorem known_iff {key : String} :
    key ∈ knownKeys registrations ↔ (lastMeaning? registrations key).isSome = true := by
  have registered : (registeredUnder registrations key).getLast?.isSome = true ↔
      key ∈ registrations.map fun entry => Text.lower entry.1 := by
    rw [List.getLast?_isSome, registeredUnder, ne_eq, List.filter_eq_nil_iff, List.mem_map]
    simp
  rw [knownKeys, List.mem_append, mem_keys_iff, lastMeaning?, Option.isSome_or, Bool.or_eq_true,
    Option.isSome_map, registered, or_comm]

theorem registered_keys (key : String) :
    key ∈ (standard.registerAll registrations).entries.map (·.1) ↔
      key ∈ knownKeys registrations := by
  rw [mem_keys_iff, lookup_registered, known_iff]

theorem meaning_of_registered_iff {meaning : String} :
    (standard.registerAll registrations).meaning? type = some meaning ↔
      ∃ key, IsLongestKey (knownKeys registrations) (baseName type) key ∧
        lastMeaning? registrations key = some meaning := by
  rw [meaning_eq_some_iff]
  constructor
  · rintro ⟨key, longest, means⟩
    exact ⟨key, longest.congr registered_keys, lookup_registered registrations key ▸ means⟩
  · rintro ⟨key, longest, means⟩
    refine ⟨key, longest.congr fun key => (registered_keys key).symm, ?_⟩
    rw [lookup_registered, means]

theorem meaning_of_registered_none_iff :
    (standard.registerAll registrations).meaning? type = none ↔
      ∀ key ∈ knownKeys registrations, ¬ (key = baseName type ∨ Begins key (baseName type)) := by
  rw [meaning?, Option.map_eq_none_iff, longest_none_iff, List.filter_eq_nil_iff]
  constructor
  · intro nothing key known
    obtain ⟨entry, listed, rfl⟩ := List.mem_map.mp ((registered_keys key).mpr known)
    rw [← covers_name_iff]
    exact nothing entry listed
  · intro nothing entry listed
    rw [covers_name_iff]
    exact nothing entry.1 ((registered_keys entry.1).mp (List.mem_map_of_mem listed))

/-- The same registrations in another order, where those under one key keep their order. -/
def Reorders (registrations others : List (String × String)) : Prop :=
  others.Perm registrations ∧ ∀ entry ∈ registrations,
    registeredUnder others (Text.lower entry.1) = registeredUnder registrations (Text.lower entry.1)

instance : DecidableRel Reorders := fun registrations others =>
  inferInstanceAs (Decidable (others.Perm registrations ∧ ∀ entry ∈ registrations,
    registeredUnder others (Text.lower entry.1) =
      registeredUnder registrations (Text.lower entry.1)))

theorem Reorders.under {others : List (String × String)} (reorders : Reorders registrations others)
    (key : String) : registeredUnder others key = registeredUnder registrations key := by
  by_cases used : ∃ entry ∈ registrations, Text.lower entry.1 = key
  · obtain ⟨entry, member, rfl⟩ := used
    exact reorders.2 entry member
  · have unused : registeredUnder registrations key = [] := by
      rw [registeredUnder, List.filter_eq_nil_iff]
      intro entry member
      simpa using fun same => used ⟨entry, member, same⟩
    have same := reorders.1.filter fun entry => Text.lower entry.1 = key
    rw [← registeredUnder, ← registeredUnder, unused] at same
    rw [unused, same.eq_nil]

theorem meaning_of_reordered {others : List (String × String)}
    (reorders : Reorders registrations others) (type : String) :
    (standard.registerAll others).meaning? type =
      (standard.registerAll registrations).meaning? type := by
  apply meaning_congr
  intro key
  rw [lookup_registered, lookup_registered, lastMeaning?, lastMeaning?, reorders.under]

def put (table : List (String × String)) (key meaning : String) : List (String × String) :=
  (key, meaning) :: table.filter fun entry => entry.1 ≠ key

def tableOf (registrations : List (String × String)) : List (String × String) :=
  registrations.foldl (fun table entry => put table (Text.lower entry.1) entry.2) standardEntries

/-- What a search in a table may find for a name: the meaning of the name itself, and else of a key
that the name begins with and that takes as many bytes as any of these. Which of several such keys
is taken is left open. -/
inductive Finds (table : List (String × String)) (name : String) : Option String → Prop
  | own {meaning : String} (entry : (name, meaning) ∈ table) : Finds table name (some meaning)
  | begun {key meaning : String} (absent : ∀ own, (name, own) ∉ table)
      (entry : (key, meaning) ∈ table) (begins : Begins key name)
      (greatest : ∀ other ∈ table, Begins other.1 name → other.1.utf8ByteSize ≤ key.utf8ByteSize) :
      Finds table name (some meaning)
  | nothing (absent : ∀ own, (name, own) ∉ table)
      (apart : ∀ entry ∈ table, ¬ Begins entry.1 name) : Finds table name none

theorem lookup_eq_some_of_distinct {entries : List (String × String)}
    (distinct : (entries.map (·.1)).Nodup) {key meaning : String} :
    entries.lookup key = some meaning ↔ (key, meaning) ∈ entries := by
  induction entries with
  | nil => simp
  | cons entry rest ih =>
      obtain ⟨absent, others⟩ := List.nodup_cons.mp distinct
      rw [List.lookup_cons, List.mem_cons, ← ih others]
      by_cases same : key = entry.1
      · have unlisted : rest.lookup entry.1 ≠ some meaning := by
          intro found
          apply absent
          rw [mem_keys_iff, found, Option.isSome_some]
        simp [same, unlisted, Prod.ext_iff, eq_comm]
      · have different : (key == entry.1) = false := beq_eq_false_iff_ne.mpr same
        simp [same, different, Prod.ext_iff]

theorem standard_keys_distinct : (standardEntries.map (·.1)).Nodup := by
  decide +kernel

theorem mem_put_iff {table : List (String × String)} {key meaning own given : String} :
    (key, meaning) ∈ put table own given ↔
      if own = key then given = meaning else (key, meaning) ∈ table := by
  rw [put, List.mem_cons, List.mem_filter, Prod.mk.injEq]
  split
  · rename_i same
    simp [same, eq_comm]
  · rename_i different
    simp [Ne.symm different]

theorem mem_table_iff {key meaning : String} :
    (key, meaning) ∈ tableOf registrations ↔ lastMeaning? registrations key = some meaning := by
  induction registrations using List.reverseRecOn with
  | nil => exact (lookup_eq_some_of_distinct standard_keys_distinct).symm
  | append_singleton earlier entry ih =>
      have last : tableOf (earlier ++ [entry]) =
          put (tableOf earlier) (Text.lower entry.1) entry.2 := by
        rw [tableOf, List.foldl_append]
        rfl
      rw [last, mem_put_iff, ih, lastMeaning?, lastMeaning?, registeredUnder, registeredUnder,
        List.filter_append]
      split
      · rename_i same
        simp [same]
      · rename_i different
        simp [different]

theorem append_of_chars_prefix {front whole : String} (begins : front.toList <+: whole.toList) :
    ∃ back, whole = front ++ back := by
  obtain ⟨back, joined⟩ := begins
  refine ⟨String.ofList back, ?_⟩
  rw [← String.toList_inj, String.toList_append, String.toList_ofList, joined]

theorem bytes_le_iff {first second whole : String} (firstBegins : first.toList <+: whole.toList)
    (secondBegins : second.toList <+: whole.toList) :
    first.utf8ByteSize ≤ second.utf8ByteSize ↔ first.length ≤ second.length := by
  rw [← String.length_toList, ← String.length_toList]
  constructor
  · intro bytes
    by_contra longer
    -- The second text is a beginning of the first then, and what is behind it takes no byte.
    have within := List.prefix_of_prefix_length_le secondBegins firstBegins (by omega)
    obtain ⟨back, rfl⟩ := append_of_chars_prefix within
    have empty : back.utf8ByteSize = 0 := by
      rw [String.utf8ByteSize_append] at bytes
      omega
    rw [String.utf8ByteSize_eq_zero_iff] at empty
    apply longer
    rw [empty, String.append_empty]
  · intro chars
    have within := List.prefix_of_prefix_length_le firstBegins secondBegins chars
    obtain ⟨back, rfl⟩ := append_of_chars_prefix within
    rw [String.utf8ByteSize_append]
    omega

theorem known_of_listed {table : List (String × String)}
    (order : table.Perm (tableOf registrations)) {key meaning : String}
    (listed : (key, meaning) ∈ table) : key ∈ knownKeys registrations := by
  rw [known_iff, mem_table_iff.mp (order.mem_iff.mp listed), Option.isSome_some]

theorem listed_of_known {table : List (String × String)}
    (order : table.Perm (tableOf registrations)) {key : String}
    (known : key ∈ knownKeys registrations) : ∃ meaning, (key, meaning) ∈ table := by
  obtain ⟨meaning, means⟩ := Option.isSome_iff_exists.mp (known_iff.mp known)
  exact ⟨meaning, order.mem_iff.mpr (mem_table_iff.mpr means)⟩

theorem finds_registered {table : List (String × String)}
    (order : table.Perm (tableOf registrations)) {answer : Option String}
    (found : Finds table (baseName type) answer) :
    answer = (standard.registerAll registrations).meaning? type := by
  cases found with
  | own entry =>
      rw [eq_comm, meaning_of_registered_iff]
      refine ⟨baseName type, ⟨known_of_listed order entry, .inl rfl, ?_⟩,
        mem_table_iff.mp (order.mem_iff.mp entry)⟩
      intro other _ covers
      have shorter := (chars_prefix_of_covers covers).length_le
      rwa [String.length_toList, String.length_toList] at shorter
  | @begun key meaning absent entry begins greatest =>
      rw [eq_comm, meaning_of_registered_iff]
      refine ⟨key, ⟨known_of_listed order entry, .inr begins, ?_⟩,
        mem_table_iff.mp (order.mem_iff.mp entry)⟩
      intro other known covers
      obtain ⟨own, listed⟩ := listed_of_known order known
      rcases covers with rfl | otherBegins
      · exact absurd listed (absent own)
      · -- Both begin the same name, so to compare their bytes is to compare their lengths.
        rw [← bytes_le_iff otherBegins.chars_prefix begins.chars_prefix]
        exact greatest _ listed otherBegins
  | nothing absent apart =>
      rw [eq_comm, meaning_of_registered_none_iff]
      intro key known covers
      obtain ⟨own, listed⟩ := listed_of_known order known
      rcases covers with rfl | begins
      · exact absent own listed
      · exact apart _ listed begins

theorem registered_finds {table : List (String × String)}
    (order : table.Perm (tableOf registrations)) (type : String) :
    Finds table (baseName type) ((standard.registerAll registrations).meaning? type) := by
  cases answer : (standard.registerAll registrations).meaning? type with
  | none =>
      rw [meaning_of_registered_none_iff] at answer
      apply Finds.nothing
      · intro own listed
        exact answer _ (known_of_listed order listed) (.inl rfl)
      · intro entry listed begins
        exact answer _ (known_of_listed order listed) (.inr begins)
  | some meaning =>
      obtain ⟨key, best, means⟩ := meaning_of_registered_iff.mp answer
      have listed := order.mem_iff.mpr (mem_table_iff.mpr means)
      rcases best.covers with rfl | begins
      · exact .own listed
      · have shorter := begins.length_le
        rw [List.length_append, String.length_toList, String.length_toList,
          List.length_singleton] at shorter
        apply Finds.begun _ listed begins
        · intro other otherListed otherBegins
          rw [bytes_le_iff otherBegins.chars_prefix begins.chars_prefix]
          exact best.longest _ (known_of_listed order otherListed) (.inr otherBegins)
        · intro own ownListed
          have notLonger := best.longest _ (known_of_listed order ownListed) (.inl rfl)
          omega

/-- After any registrations a type has the meaning that was given last to the longest known key that
is its base name, or that its base name begins with as whole words, and it has none if there is no
such key. Registrations under different keys may change places, and the table of the keys may be
searched in any order. -/
theorem longest_key_answers (registrations : List (String × String)) (type : String) :
    (∀ meaning, (standard.registerAll registrations).meaning? type = some meaning ↔
      ∃ key, IsLongestKey (knownKeys registrations) (baseName type) key ∧
        lastMeaning? registrations key = some meaning) ∧
    ((standard.registerAll registrations).meaning? type = none ↔
      ∀ key ∈ knownKeys registrations, ¬ (key = baseName type ∨ Begins key (baseName type))) ∧
    (∀ others, Reorders registrations others →
      (standard.registerAll others).meaning? type =
        (standard.registerAll registrations).meaning? type) ∧
    ∀ table, table.Perm (tableOf registrations) → ∀ answer,
      Finds table (baseName type) answer ↔
        answer = (standard.registerAll registrations).meaning? type := by
  refine ⟨fun meaning => meaning_of_registered_iff, meaning_of_registered_none_iff,
    fun others reorders => meaning_of_reordered reorders type, ?_⟩
  intro table order answer
  constructor
  · exact finds_registered order
  · intro same
    rw [same]
    exact registered_finds order type

def geometryAndIntervals : List (String × String) :=
  [("GEOMETRY", "string"), ("Interval Day To", "text"), ("geometry", "blob")]

def intervalsAndGeometry : List (String × String) :=
  [("Interval Day To", "text"), ("GEOMETRY", "string"), ("geometry", "blob")]

theorem longest_key_answers_interval :
    Reorders geometryAndIntervals intervalsAndGeometry ∧
    (tableOf geometryAndIntervals).reverse.Perm (tableOf geometryAndIntervals) ∧
    (standard.registerAll geometryAndIntervals).meaning? "INTERVAL DAY TO SECOND(6)" = some "text" ∧
    (standard.registerAll intervalsAndGeometry).meaning? "INTERVAL DAY TO SECOND(6)" = some "text" ∧
    Finds (tableOf geometryAndIntervals).reverse (baseName "INTERVAL DAY TO SECOND(6)")
      (some "text") ∧
    (standard.registerAll intervalsAndGeometry).meaning? "geometry zm" = some "blob" := by
  have reorders : Reorders geometryAndIntervals intervalsAndGeometry := by decide +kernel
  have order := (tableOf geometryAndIntervals).reverse_perm
  have interval : (standard.registerAll geometryAndIntervals).meaning?
      "INTERVAL DAY TO SECOND(6)" = some "text" := by decide +kernel
  have geometry : (standard.registerAll geometryAndIntervals).meaning? "geometry zm" =
      some "blob" := by decide +kernel
  obtain ⟨_, _, reordered, searched⟩ :=
    longest_key_answers geometryAndIntervals "INTERVAL DAY TO SECOND(6)"
  obtain ⟨_, _, otherReordered, _⟩ := longest_key_answers geometryAndIntervals "geometry zm"
  exact ⟨reorders, order, interval, (reordered _ reorders).trans interval,
    (searched _ order _).mpr interval.symm, (otherReordered _ reorders).trans geometry⟩

end SchemaBlueprint.Catalog.TypeRegistry
