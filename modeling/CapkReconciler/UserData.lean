import CapkReconciler.Base64

/-!
# `updateUserDataUsers`

Lines 503–541: add a `core` user with the cluster's public key to an ignition
document, or append a cloud-config `users` section to anything that is not
JSON. The call at lines 418–421 is commented out; the function is modelled as
it stands.

The JSON branch works on the untyped values `json.Unmarshal` produces and
asserts their dynamic types. `GoValue` holds those values and the two typed
ones the function stores itself, and `updateUserDataUsersJSON` returns the
run-time panic a failed assertion or a write to a nil map raises.

- `updateUserDataUsersJSON_existing_users`: every decoded document that
  already holds `passwd.users` panics at line 518. Decoding gives a
  `[]interface{}`, and the assertion asks for a `[]map[string]interface{}`.
- `updateUserDataUsersJSON_null`: the document `null` decodes to a nil map,
  and line 507 writes to it.
- `updateUserDataUsersJSON_adds_user`: on a document without `passwd.users`
  the branch appends exactly the one user and leaves every other member of the
  document and of `passwd` as it was. The user's `sshAuthorizedKeys` is the key
  as a `[]byte`, which `json.Marshal` writes as one base64 string.
- `usersCloudConfig_key`: the cloud-config `users` section ends with the key
  byte for byte, through the base64 round trip of `Base64`.
-/

namespace CapkReconciler

/-- A Go value as `encoding/json` decodes it into an `interface{}` (`nil`,
`bool`, `float64`, `string`, `[]interface{}`, `map[string]interface{}`), or
one of the two typed values `updateUserDataUsers` stores itself, a
`[]map[string]interface{}` and a `[]byte`. A number keeps its literal. -/
inductive GoValue where
  | null
  | bool (b : Bool)
  | number (literal : String)
  | string (s : String)
  | array (vs : List GoValue)
  | object (kvs : List (String × GoValue))
  | mapSlice (ms : List (List (String × GoValue)))
  | bytes (b : Bytes)
deriving Repr

mutual
/-- Whether a value is one `json.Unmarshal` can produce. -/
def GoValue.isDecoded : GoValue → Bool
  | .array vs => GoValue.allDecoded vs
  | .object kvs => GoValue.membersDecoded kvs
  | .mapSlice _ => false
  | .bytes _ => false
  | _ => true

/-- Whether every value of a list is one `json.Unmarshal` can produce. -/
def GoValue.allDecoded : List GoValue → Bool
  | [] => true
  | v :: vs => v.isDecoded && GoValue.allDecoded vs

/-- Whether every member of a map is one `json.Unmarshal` can produce. -/
def GoValue.membersDecoded : List (String × GoValue) → Bool
  | [] => true
  | (_, v) :: kvs => v.isDecoded && GoValue.membersDecoded kvs
end

/-- The dynamic type a failed type assertion names. -/
def GoValue.typeName : GoValue → String
  | .null => "nil"
  | .bool _ => "bool"
  | .number _ => "float64"
  | .string _ => "string"
  | .array _ => "[]interface {}"
  | .object _ => "map[string]interface {}"
  | .mapSlice _ => "[]map[string]interface {}"
  | .bytes _ => "[]uint8"

/-- A Go run-time panic. -/
inductive Panic where
  /-- `interface conversion: interface {} is <actual>, not <asserted>`. -/
  | typeAssertion (actual asserted : String)
  /-- `assignment to entry in nil map`. -/
  | nilMapWrite
deriving DecidableEq, Repr

/-- `m[k] = v` on a map held as its members. -/
def mapSet : List (String × GoValue) → String → GoValue → List (String × GoValue)
  | [], k, v => [(k, v)]
  | (k', v') :: kvs, k, v => if k' = k then (k, v) :: kvs else (k', v') :: mapSet kvs k v

/-- `v.(map[string]interface{})`. -/
def assertMap : GoValue → Except Panic (List (String × GoValue))
  | .object kvs => .ok kvs
  | v => .error (.typeAssertion v.typeName "map[string]interface {}")

/-- `v.([]map[string]interface{})`. -/
def assertMapSlice : GoValue → Except Panic (List (List (String × GoValue)))
  | .mapSlice ms => .ok ms
  | v => .error (.typeAssertion v.typeName "[]map[string]interface {}")

/-- The user line 514 adds. -/
def coreUser (sshPublicKey : Bytes) : List (String × GoValue) :=
  [("name", .string "core"), ("sshAuthorizedKeys", .bytes sshPublicKey)]

/-- The JSON branch of `updateUserDataUsers` (lines 505–521) on the map
`json.Unmarshal` decoded, `none` being the nil map of the document `null`: the
map `json.Marshal` then encodes, or the panic. A missing key reads as `nil`. -/
def updateUserDataUsersJSON (sshPublicKey : Bytes) (dataMap : Option (List (String × GoValue))) :
    Except Panic (List (String × GoValue)) := do
  let dataMap ← match dataMap with
    | none => .error .nilMapWrite
    | some m => .ok (if (m.lookup "passwd").isSome then m else mapSet m "passwd" (.object []))
  let passwd ← assertMap ((dataMap.lookup "passwd").getD .null)
  let passwd := if (passwd.lookup "users").isSome then passwd else mapSet passwd "users" (.mapSlice [])
  let users ← assertMapSlice ((passwd.lookup "users").getD .null)
  return mapSet dataMap "passwd" (.object (mapSet passwd "users" (.mapSlice (users ++ [coreUser sshPublicKey]))))

/-- `usersCloudConfig` (lines 530–541): the `users` section, with the key
sent through `base64.StdEncoding` and back, the decoder's error dropped. -/
def usersCloudConfig (sshPublicKey : Bytes) : Bytes :=
  let sshPublicKeyString := Base64.encodeToString sshPublicKey
  let sshPublicKeyDecoded := (Base64.decodeString sshPublicKeyString).1
  ("users:\n  - name: capk\n    gecos: CAPK User\n    sudo: ALL=(ALL) NOPASSWD:ALL\n" ++
    "    groups: users, admin\n    ssh_authorized_keys:\n      - ").toUTF8.toList ++ sshPublicKeyDecoded

/-- `updateUserDataUsers`, with `json.Unmarshal` into a `map[string]interface{}`
as `decode` and `json.Marshal` as `marshal`, both the library's. `json.Marshal`
cannot fail on the values of this function, so its error branch is never
taken. -/
def updateUserDataUsers (decode : Bytes → Except GoError (Option (List (String × GoValue))))
    (marshal : List (String × GoValue) → Bytes) (sshPublicKey src : Bytes) : Except Panic Bytes :=
  match decode src with
  | .ok dataMap => (updateUserDataUsersJSON sshPublicKey dataMap).map marshal
  | .error _ => .ok (src ++ usersCloudConfig sshPublicKey)

/-! ## Maps -/

theorem lookup_cons_of_ne {k k' : String} (v : GoValue) (kvs : List (String × GoValue))
    (h : k ≠ k') : ((k', v) :: kvs).lookup k = kvs.lookup k := by
  have hb : (k == k') = false := by simpa using h
  simp [List.lookup_cons, hb]

@[simp] theorem lookup_mapSet_self (kvs : List (String × GoValue)) (k : String) (v : GoValue) :
    (mapSet kvs k v).lookup k = some v := by
  induction kvs with
  | nil => simp [mapSet]
  | cons kv kvs ih =>
    obtain ⟨k', v'⟩ := kv
    by_cases h : k' = k
    · simp [mapSet, h]
    · simp [mapSet, h, lookup_cons_of_ne _ _ (Ne.symm h), ih]

theorem lookup_mapSet_of_ne (kvs : List (String × GoValue)) {k k' : String} (v : GoValue)
    (h : k ≠ k') : (mapSet kvs k v).lookup k' = kvs.lookup k' := by
  induction kvs with
  | nil => simp [mapSet, lookup_cons_of_ne _ _ (Ne.symm h)]
  | cons kv kvs ih =>
    obtain ⟨k₀, v₀⟩ := kv
    by_cases h₀ : k₀ = k
    · subst h₀
      simp [mapSet, lookup_cons_of_ne _ _ (Ne.symm h)]
    · by_cases h₁ : k' = k₀
      · subst h₁
        simp [mapSet, h₀]
      · simp [mapSet, h₀, lookup_cons_of_ne _ _ h₁, ih]

theorem isDecoded_of_lookup {kvs : List (String × GoValue)} {k : String} {v : GoValue}
    (hd : GoValue.membersDecoded kvs = true) (h : kvs.lookup k = some v) : v.isDecoded = true := by
  induction kvs with
  | nil => simp at h
  | cons kv kvs ih =>
    obtain ⟨k', v'⟩ := kv
    simp only [GoValue.membersDecoded, Bool.and_eq_true] at hd
    by_cases hk : k = k'
    · subst hk
      simp only [List.lookup_cons_self, Option.some.injEq] at h
      exact h ▸ hd.1
    · rw [lookup_cons_of_ne _ _ hk] at h
      exact ih hd.2 h

/-! ## The JSON branch -/

/-- Every decoded document that already holds `passwd.users` panics at the
assertion of line 518, whatever the users are. -/
theorem updateUserDataUsersJSON_existing_users (sshPublicKey : Bytes)
    {m passwd : List (String × GoValue)} {users : GoValue}
    (hpasswd : m.lookup "passwd" = some (.object passwd)) (husers : passwd.lookup "users" = some users)
    (hdec : users.isDecoded = true) :
    updateUserDataUsersJSON sshPublicKey (some m) =
      .error (.typeAssertion users.typeName "[]map[string]interface {}") := by
  cases users <;> simp_all [updateUserDataUsersJSON, assertMap, assertMapSlice, bind, Except.bind,
    GoValue.isDecoded, GoValue.typeName]

/-- `{"passwd": {"users": []}}`. -/
theorem updateUserDataUsersJSON_existing_users_empty :
    updateUserDataUsersJSON [] (some [("passwd", .object [("users", .array [])])]) =
      .error (.typeAssertion "[]interface {}" "[]map[string]interface {}") :=
  updateUserDataUsersJSON_existing_users (m := [("passwd", .object [("users", .array [])])]) [] rfl
    rfl rfl

/-- The document `null`: line 507 writes to the nil map. -/
theorem updateUserDataUsersJSON_null (sshPublicKey : Bytes) :
    updateUserDataUsersJSON sshPublicKey none = .error .nilMapWrite := rfl

theorem mapSet_mapSet (kvs : List (String × GoValue)) (k : String) (v v' : GoValue) :
    mapSet (mapSet kvs k v) k v' = mapSet kvs k v' := by
  induction kvs with
  | nil => simp [mapSet]
  | cons kv kvs ih =>
    by_cases h : kv.1 = k <;> simp [mapSet, h, ih]

/-- On a document whose `passwd` is missing, or an object without `users`,
the branch sets `passwd.users` to the one `core` user and leaves every other
member of the document and of `passwd` as it was. -/
theorem updateUserDataUsersJSON_adds_user (sshPublicKey : Bytes) (m passwd : List (String × GoValue))
    (hpasswd : (m.lookup "passwd" = none ∧ passwd = []) ∨ m.lookup "passwd" = some (.object passwd))
    (husers : passwd.lookup "users" = none) :
    ∃ out, updateUserDataUsersJSON sshPublicKey (some m) = .ok out ∧
      out.lookup "passwd" = some (.object (mapSet passwd "users" (.mapSlice [coreUser sshPublicKey]))) ∧
      ∀ k, k ≠ "passwd" → out.lookup k = m.lookup k := by
  rcases hpasswd with ⟨hp, rfl⟩ | hp
  · refine ⟨_, by simp [updateUserDataUsersJSON, hp, assertMap, assertMapSlice, bind, Except.bind,
      mapSet_mapSet, pure, Except.pure]; rfl, by simp, fun k hk => ?_⟩
    rw [lookup_mapSet_of_ne _ _ (Ne.symm hk)]
  · refine ⟨_, by simp [updateUserDataUsersJSON, hp, husers, assertMap, assertMapSlice, bind,
      Except.bind, mapSet_mapSet, pure, Except.pure]; rfl, by simp, fun k hk => ?_⟩
    rw [lookup_mapSet_of_ne _ _ (Ne.symm hk)]

/-- A document without `passwd` gets one, with the `core` user. -/
theorem updateUserDataUsersJSON_adds_user_fresh :
    ∃ out, updateUserDataUsersJSON [1] (some [("ignition", .object [])]) = .ok out ∧
      out.lookup "passwd" = some (.object (mapSet [] "users" (.mapSlice [coreUser [1]]))) ∧
      ∀ k, k ≠ "passwd" → out.lookup k = [("ignition", GoValue.object [])].lookup k :=
  updateUserDataUsersJSON_adds_user [1] _ [] (.inl ⟨rfl, rfl⟩) rfl

/-! ## The cloud-config branch -/

/-- The `users` section carries the key byte for byte after its fixed text:
the base64 round trip of lines 532–533 gives every key back, and the error it
drops is never set. -/
theorem usersCloudConfig_key (sshPublicKey : Bytes) :
    usersCloudConfig sshPublicKey = usersCloudConfig [] ++ sshPublicKey := by
  simp only [usersCloudConfig, Base64.decodeString_encodeToString, List.append_nil]

end CapkReconciler
