/-
**Changes of settings.**

The store of the settings notifies of changes by key: each key has a new value or was removed, which
brings back its default.  Changes are folded into the settings as documents, so a value of the wrong
kind leaves the settings as they are, and unknown keys do no harm.

Main definitions:

* `Change` — the old and the new value of a key;
* `Changes` — changes by distinct keys, with `Changes.ofList`;
* `Settings.withChanges?` — the settings after changes;
* `Settings.routingChanged` — whether changes brought a change of the configuration.
-/

import HostRouting.Settings.Document

set_option autoImplicit false

namespace HostRouting

/-! ### Changes -/

/-- The old and the new value of a key; without a new value the key was removed. -/
structure Change where
  old : Option Json
  new : Option Json

namespace Change

/-- The change that removes a key. -/
def removal : Change := ⟨none, none⟩

/-- The change that sets a value. -/
def set (j : Json) : Change := ⟨none, some j⟩

/-- The change of a document whose values may be nested as deeply as `depth`. -/
def ofDocument? (depth : Nat) (j : Json) : Option Change := do
  let fs ← j.fields? ["oldValue", "newValue"]
  let old ← Record.field fs "oldValue" (Json.optional (Json.data? depth)) none
  let new ← Record.field fs "newValue" (Json.optional (Json.data? depth)) none
  some ⟨old, new⟩

/-- A change as a document. -/
def document (c : Change) : Json :=
  .ofMembers [("oldValue", Json.orNull id c.old), ("newValue", Json.orNull id c.new)]

/-- The nesting that the values of a single change may have. -/
def valueDepth : Nat := 126

end Change

/-- Changes by distinct keys. -/
structure Changes where
  entries : List (String × Change)
  nodup_keys : (entries.map (·.1)).Nodup

namespace Changes

/-- The entries of a list that no later entry with the same key replaces. -/
def lastEntries : List (String × Change) → List (String × Change)
  | [] => []
  | e :: es => if es.any (·.1 == e.1) then lastEntries es else e :: lastEntries es

theorem mem_keys_of_lastEntries {key : String} :
    ∀ {es : List (String × Change)}, key ∈ (lastEntries es).map (·.1) → key ∈ es.map (·.1)
  | [], h => by simp [lastEntries] at h
  | e :: es, h => by
      rw [lastEntries] at h
      split at h
      · exact List.mem_cons_of_mem _ (mem_keys_of_lastEntries h)
      · rcases List.mem_cons.1 h with rfl | h
        · simp
        · exact List.mem_cons_of_mem _ (mem_keys_of_lastEntries h)

theorem nodup_lastEntries : ∀ es : List (String × Change), ((lastEntries es).map (·.1)).Nodup
  | [] => by simp [lastEntries]
  | e :: es => by
      rw [lastEntries]
      split
      · exact nodup_lastEntries es
      · rename_i h
        rw [List.map_cons, List.nodup_cons]
        refine ⟨fun hm => h ?_, nodup_lastEntries es⟩
        obtain ⟨x, hx, hk⟩ := List.mem_map.1 (mem_keys_of_lastEntries hm)
        exact List.any_eq_true.2 ⟨x, hx, by simp [hk]⟩

/-- The changes of a list, of which the last counts for each key. -/
def ofList (es : List (String × Change)) : Changes := ⟨lastEntries es, nodup_lastEntries es⟩

/-- The keys that change. -/
def keys (cs : Changes) : List String := cs.entries.map (·.1)

/-- Whether a key changes. -/
def names (cs : Changes) (key : String) : Bool := cs.keys.contains key

/-- The changes of a document; of repeated keys the last counts. -/
def ofDocument? : Json → Option Changes
  | .object ms => do
      let named ← Json.named? ms
      let es ← named.mapM fun (key, j) =>
        (Change.ofDocument? (Change.valueDepth - 1) j).map (key, ·)
      some (ofList es)
  | _ => none

/-- Changes as a document. -/
def document (cs : Changes) : Json := .ofMembers (cs.entries.map fun (key, c) => (key, c.document))

end Changes

/-! ### Folding changes in -/

namespace Settings

/-- Members with one change made. -/
def changedMembers (ms : List (String × Json)) (key : String) (c : Change) :
    List (String × Json) :=
  ms.filter (·.1 != key) ++ (c.new.map (key, ·)).toList

/-- The settings after changes, `none` if a value is of the wrong kind. -/
def withChanges? (s : Settings) (cs : Changes) : Option Settings :=
  ofDocument? (.ofMembers (cs.entries.foldl (fun ms e => changedMembers ms e.1 e.2) s.members))

/-- The keys that routing depends on. -/
def routingKeys : List String :=
  ["proxyEnabled", "proxyUrl", "mode"]
    ++ [RuleSource.manualKey, RuleSource.fetchedKey].flatMap
      fun key => [key .whitelist, key .blacklist]

/-- Whether changes that led from `s` to `next` changed the configuration. -/
def routingChanged (s next : Settings) (cs : Changes) : Bool :=
  cs.keys.any routingKeys.contains && next.toConfig != s.toConfig

end Settings

end HostRouting
