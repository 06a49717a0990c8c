import IntellApi.Base64
import IntellApi.Inverters
import IntellApi.Json

/-!
# Sunsynk credentials at rest

E-mail and password are joined by a colon and stored as one encrypted text: the
initialisation vector, the tag and the cipher text, in base64. The poller
decrypts it and splits at the first colon. The cipher and the decoders of the
runtime are parameters (`Runtime.Lawful` is what they are relied on for). What
comes back is what was stored, unless the e-mail has a colon of its own.
-/

namespace IntellApi.SunsynkCredentials

open Inverters

/-! ## Texts and buffers -/

abbrev Buffer := List UInt8

/-- UTF-16 units. -/
abbrev JsString := List Nat

def ofString (s : String) : JsString := s.toList.flatMap Json.units

def indexOf (s : JsString) (unit : Nat) : Int := ((s.findIdx? (· = unit)).map Int.ofNat).getD (-1)

/-- The place of an index that counts from the end when it is negative. -/
def place (length : Nat) (index : Int) : Nat := if index < 0 then (length + index).toNat else min index.toNat length

/-- `slice` of a text, `subarray` of a buffer. -/
def slice {α : Type} (l : List α) (start stop : Int) : List α :=
  (l.take (place l.length stop)).drop (place l.length start)

/-- A surrogate alone is written as U+FFFD. -/
def toUtf8 (s : JsString) : Buffer := (Json.ofUnits s).flatMap String.utf8EncodeChar

def toBase64 (data : Buffer) : String := String.ofList (Base64.encode data)

/-- `cipher` gives the cipher text and the tag. -/
structure Runtime where
  cipher : (key iv plain : Buffer) → Except ServiceError (Buffer × Buffer)
  decipher : (key iv tag encrypted : Buffer) → Except ServiceError Buffer
  ofUtf8 : Buffer → JsString
  ofBase64 : String → Buffer

structure Runtime.Lawful (r : Runtime) : Prop where
  decipher_cipher : ∀ key iv plain encrypted tag, r.cipher key iv plain = .ok (encrypted, tag) →
    r.decipher key iv tag encrypted = .ok plain
  tag_length : ∀ key iv plain encrypted tag, r.cipher key iv plain = .ok (encrypted, tag) → tag.length = 16
  ofUtf8_toUtf8 : ∀ s : String, r.ofUtf8 (toUtf8 (ofString s)) = ofString s
  ofBase64_toBase64 : ∀ data, r.ofBase64 (toBase64 data) = data

/-! ## The secret manager -/

def ivLength : Nat := 12
def tagLength : Nat := 16

def shortKeyMessage : String := "ENCRYPTION_KEY must be at least 32 characters"

def getKey (env : Option JsString) : Except ServiceError Buffer :=
  match env with
  | some key => if key.length < 32 then throw (.error shortKeyMessage) else return slice (toUtf8 key) 0 32
  | none => throw (.error shortKeyMessage)

section
variable (r : Runtime) (env : Option JsString)

/-- `iv` is what `randomBytes` draws. -/
def encrypt (iv : Buffer) (plainText : JsString) : Except ServiceError String := do
  let key ← getKey env
  let (encrypted, tag) ← r.cipher key iv (toUtf8 plainText)
  return toBase64 (iv ++ tag ++ encrypted)

def decrypt (cipherText : String) : Except ServiceError JsString := do
  let data := r.ofBase64 cipherText
  let iv := slice data 0 ivLength
  let tag := slice data ivLength (ivLength + tagLength)
  let encrypted := slice data (ivLength + tagLength) data.length
  let key ← getKey env
  let plain ← r.decipher key iv tag encrypted
  return r.ofUtf8 plain

/-! ## Storing and reading -/

def colon : Nat := 0x3a

structure InverterConnectorDto where
  solarmanEmail : JsString
  solarmanPassword : JsString

structure StoredInverter extends InverterRow where
  encryptedCredentials : Option String
  deriving DecidableEq, Repr

def persistInverter (iv : Buffer) (inverters : List StoredInverter) (newId : Uuid) (systemData : VerifiedSystem)
    (brand : InverterBrand) (rawCredential : JsString) (userId : Uuid) : Except ServiceError StoredInverter :=
  if inverters.any (·.serialNumber = systemData.serialNumber) then throw (.conflict (alreadyConnectedMessage brand))
  else do
    let encryptedCredentials ← encrypt r env iv rawCredential
    return { newInverter newId brand systemData userId with encryptedCredentials := some encryptedCredentials }

def connectSunsynkInverter (verifyAndGetSunsynkSystem : JsString → JsString → Except ServiceError VerifiedSystem)
    (iv : Buffer) (inverters : List StoredInverter) (newId : Uuid) (dto : InverterConnectorDto) (userId : Uuid) :
    Except ServiceError StoredInverter := do
  let email := dto.solarmanEmail
  let password := dto.solarmanPassword
  let systemData ← verifyAndGetSunsynkSystem email password
  let rawCredential := email ++ [colon] ++ password
  persistInverter r env iv inverters newId systemData .sunsynk rawCredential userId

def splitCredential (raw : JsString) : JsString × JsString :=
  let colonIdx := indexOf raw colon
  (slice raw 0 colonIdx, slice raw (colonIdx + 1) raw.length)

/-- The arguments of the adapter's `fetchMetrics`. -/
structure FetchMetrics where
  deviceSn : String
  email : JsString
  password : JsString
  deriving DecidableEq, Repr

/-- The call the poller makes; `none` when the credentials cannot be read. -/
def pollSunsynkOne (inverter : StoredInverter) : Option FetchMetrics :=
  match inverter.encryptedCredentials.map (decrypt r env) with
  | some (.ok raw) => some ⟨inverter.serialNumber, (splitCredential raw).1, (splitCredential raw).2⟩
  | some (.error _) | none => none

end

/-! ## Slices -/

theorem place_natCast (length n : Nat) : place length n = min n length := by
  have h : ¬ (n : Int) < 0 := by omega
  rw [place, if_neg h, Int.toNat_natCast]

section
variable {α : Type}

theorem slice_natCast (l : List α) (m n : Nat) : slice l m n = (l.take n).drop m := by
  have htake : l.take (min n l.length) = l.take n := by simp [List.take_eq_take_iff]
  rw [slice, place_natCast, place_natCast, htake]
  by_cases hm : m ≤ l.length
  · rw [Nat.min_eq_left hm]
  · have hl : (l.take n).length ≤ l.length := by rw [List.length_take]; omega
    rw [List.drop_eq_nil_of_le (by omega), List.drop_eq_nil_of_le (by omega)]

theorem slice_prefix (before after : List α) : slice (before ++ after) 0 before.length = before := by
  have := slice_natCast (before ++ after) 0 before.length
  simpa using this

theorem slice_middle (before middle after : List α) :
    slice (before ++ middle ++ after) before.length (before.length + middle.length : Nat) = middle := by
  rw [slice_natCast, ← List.length_append, List.take_left, List.drop_left]

theorem slice_suffix (before after : List α) :
    slice (before ++ after) before.length (before ++ after).length = after := by
  rw [slice_natCast, List.take_length, List.drop_left]

end

/-! ## What is decrypted -/

section
variable {r : Runtime} {env : Option JsString} {iv : Buffer} {stored : String}

theorem decrypt_encrypt (hr : r.Lawful) (hiv : iv.length = ivLength) (plainText : String)
    (h : encrypt r env iv (ofString plainText) = .ok stored) : decrypt r env stored = .ok (ofString plainText) := by
  obtain ⟨key, hkey, h⟩ := bind_eq_ok.mp h
  obtain ⟨⟨encrypted, tag⟩, hcipher, h⟩ := bind_eq_ok.mp h
  cases h
  have htag : tag.length = tagLength := hr.tag_length _ _ _ _ _ hcipher
  have h₁ : slice (iv ++ tag ++ encrypted) 0 ivLength = iv := by
    rw [← hiv, List.append_assoc]
    exact slice_prefix iv (tag ++ encrypted)
  have h₂ : slice (iv ++ tag ++ encrypted) ivLength (ivLength + tagLength) = tag := by
    rw [← hiv, ← htag, ← Int.natCast_add]
    exact slice_middle iv tag encrypted
  have h₃ : slice (iv ++ tag ++ encrypted) (ivLength + tagLength) (iv ++ tag ++ encrypted).length = encrypted := by
    rw [← hiv, ← htag, ← Int.natCast_add, ← List.length_append]
    exact slice_suffix (iv ++ tag) encrypted
  unfold decrypt
  rw [hr.ofBase64_toBase64]
  refine bind_eq_ok.mpr ⟨key, hkey, bind_eq_ok.mpr ⟨toUtf8 (ofString plainText), ?_, ?_⟩⟩
  · rw [h₁, h₂, h₃]
    exact hr.decipher_cipher _ _ _ _ _ hcipher
  · exact congrArg Except.ok (hr.ofUtf8_toUtf8 plainText)

end

/-! ## Splitting at the colon -/

theorem colon_mem_units (c : Char) : colon ∈ Json.units c ↔ c = ':' := by
  unfold Json.units colon
  split
  · rw [List.mem_singleton]
    refine ⟨fun h => Char.toNat_inj.mp h.symm, ?_⟩
    rintro rfl
    rfl
  · rename_i hc
    refine ⟨fun h => ?_, ?_⟩
    · simp only [List.mem_cons, List.not_mem_nil, or_false] at h
      omega
    · rintro rfl
      exact absurd (by decide) hc

theorem colon_mem_ofString (s : String) : colon ∈ ofString s ↔ ':' ∈ s.toList := by
  unfold ofString
  rw [List.mem_flatMap]
  refine ⟨?_, fun h => ⟨':', h, (colon_mem_units ':').mpr rfl⟩⟩
  rintro ⟨c, hc, hunit⟩
  rwa [← (colon_mem_units c).mp hunit]

theorem ofString_join (email password : String) :
    ofString (email ++ ":" ++ password) = ofString email ++ [colon] ++ ofString password := by
  simp only [ofString, String.toList_append, List.flatMap_append]
  rfl

theorem indexOf_append {before : JsString} (h : colon ∉ before) (after : JsString) :
    indexOf (before ++ [colon] ++ after) colon = before.length := by
  have hbefore : before.findIdx? (· = colon) = none := by
    rw [List.findIdx?_eq_none_iff]
    intro unit hunit
    exact decide_eq_false fun e => h (e ▸ hunit)
  have hat : (before ++ [colon] ++ after).findIdx? (· = colon) = some before.length := by
    rw [List.append_assoc, List.findIdx?_append, hbefore]
    simp [List.findIdx?_cons]
  rw [indexOf, hat]
  rfl

theorem splitCredential_append {before : JsString} (h : colon ∉ before) (after : JsString) :
    splitCredential (before ++ [colon] ++ after) = (before, after) := by
  have hfirst : slice (before ++ [colon] ++ after) 0 before.length = before := by
    rw [List.append_assoc]
    exact slice_prefix before ([colon] ++ after)
  have hsecond :
      slice (before ++ [colon] ++ after) (before.length + 1) (before ++ [colon] ++ after).length = after := by
    have hlength : (before.length + 1 : Int) = ((before ++ [colon]).length : Nat) := by simp
    rw [hlength]
    exact slice_suffix (before ++ [colon]) after
  simp only [splitCredential, indexOf_append h after, hfirst, hsecond]

theorem splitCredential_eq_iff (email password : JsString) :
    splitCredential (email ++ [colon] ++ password) = (email, password) ↔ colon ∉ email := by
  refine ⟨fun h hmem => ?_, fun h => splitCredential_append h password⟩
  obtain ⟨before, after, rfl, hbefore⟩ := List.eq_append_cons_of_mem hmem
  have hsplit := splitCredential_append hbefore (after ++ [colon] ++ password)
  have hraw : before ++ colon :: after ++ [colon] ++ password =
      before ++ [colon] ++ (after ++ [colon] ++ password) := by simp
  rw [hraw, hsplit] at h
  have hlength : before.length = (before ++ colon :: after).length := congrArg List.length (congrArg Prod.fst h)
  rw [List.length_append, List.length_cons] at hlength
  omega

/-! ## One text -/

/-- Node's coders for what they encode, and AES-256-GCM at one text. -/
def oneText (key iv plain encrypted tag : Buffer) : Runtime where
  cipher key' iv' plain' :=
    if (key', iv', plain') = (key, iv, plain) then .ok (encrypted, tag) else .error (.error "another text")
  decipher key' iv' tag' encrypted' :=
    if (key', iv', tag', encrypted') = (key, iv, tag, encrypted) then .ok plain
    else .error (.error "Unsupported state or unable to authenticate data")
  ofUtf8 data := (data.toByteArray.utf8Decode?.getD #[]).toList.flatMap Json.units
  ofBase64 text := Base64.decode text.toList

theorem oneText_cipher {key iv plain encrypted tag key' iv' plain' encrypted' tag' : Buffer}
    (h : (oneText key iv plain encrypted tag).cipher key' iv' plain' = .ok (encrypted', tag')) :
    (key', iv', plain') = (key, iv, plain) ∧ (encrypted', tag') = (encrypted, tag) := by
  simp only [oneText] at h
  split at h
  · rename_i heq
    exact ⟨heq, (Except.ok.inj h).symm⟩
  · cases h

theorem oneText_lawful {key iv plain encrypted tag : Buffer} (htag : tag.length = 16) :
    (oneText key iv plain encrypted tag).Lawful where
  decipher_cipher := by
    intro key' iv' plain' encrypted' tag' h
    obtain ⟨hin, hout⟩ := oneText_cipher h
    cases hin
    cases hout
    exact if_pos rfl
  tag_length := by
    intro key' iv' plain' encrypted' tag' h
    obtain ⟨-, hout⟩ := oneText_cipher h
    cases hout
    exact htag
  ofUtf8_toUtf8 s := by
    have hbytes : (toUtf8 (ofString s)).toByteArray = s.toList.utf8Encode := by
      rw [toUtf8, ofString, Json.ofUnits_flatMap, List.utf8Encode]
    simp only [oneText, hbytes, List.utf8Decode?_utf8Encode, Option.getD_some]
    rfl
  ofBase64_toBase64 data := by
    simp only [oneText, toBase64, String.toList_ofList, Base64.decode_encode]

/-! ## What survives -/

theorem persistInverter_eq_ok {r : Runtime} {env : Option JsString} {iv : Buffer} {inverters : List StoredInverter}
    {newId userId : Uuid} {systemData : VerifiedSystem} {brand : InverterBrand} {rawCredential : JsString}
    {inverter : StoredInverter}
    (h : persistInverter r env iv inverters newId systemData brand rawCredential userId = .ok inverter) :
    ∃ stored, encrypt r env iv rawCredential = .ok stored ∧ inverter.encryptedCredentials = some stored := by
  unfold persistInverter at h
  split at h
  · cases h
  · obtain ⟨stored, hstored, h⟩ := bind_eq_ok.mp h
    cases h
    exact ⟨stored, hstored, rfl⟩

def keyEnv : Option JsString := some (ofString "0123456789abcdef0123456789abcdef")

def ivBytes : Buffer := [0, 1, 2, 3, 4, 5, 6, 7, 8, 9, 10, 11]

/-- The cipher text and the tag of AES-256-GCM. -/
def aes : Runtime :=
  oneText (toUtf8 (ofString "0123456789abcdef0123456789abcdef")) ivBytes (toUtf8 (ofString "a@b.c:x:y"))
    [76, 165, 217, 82, 186, 34, 170, 150, 209]
    [200, 196, 202, 155, 134, 237, 37, 6, 69, 221, 96, 111, 161, 161, 156, 118]

def storedInverter : StoredInverter :=
  { newInverter 1 .sunsynk ⟨"SN-1", 5⟩ 7 with
    encryptedCredentials := some "AAECAwQFBgcICQoLyMTKm4btJQZF3WBvoaGcdkyl2VK6IqqW0Q==" }

theorem sunsynk_credentials_survive {r : Runtime} {env : Option JsString}
    {verifyAndGetSunsynkSystem : JsString → JsString → Except ServiceError VerifiedSystem} {iv : Buffer}
    {inverters : List StoredInverter} {newId userId : Uuid} {inverter : StoredInverter} (hr : r.Lawful)
    (hiv : iv.length = ivLength) (email password : String)
    (h : connectSunsynkInverter r env verifyAndGetSunsynkSystem iv inverters newId
      ⟨ofString email, ofString password⟩ userId = .ok inverter) :
    pollSunsynkOne r env inverter = some ⟨inverter.serialNumber, ofString email, ofString password⟩ ↔
      ':' ∉ email.toList := by
  obtain ⟨systemData, -, h⟩ := bind_eq_ok.mp h
  obtain ⟨stored, hstored, hcredentials⟩ := persistInverter_eq_ok h
  rw [← ofString_join] at hstored
  have hraw : decrypt r env stored = .ok (ofString email ++ [colon] ++ ofString password) := by
    rw [decrypt_encrypt hr hiv _ hstored, ofString_join]
  have hpoll : pollSunsynkOne r env inverter = some
      ⟨inverter.serialNumber, (splitCredential (ofString email ++ [colon] ++ ofString password)).1,
        (splitCredential (ofString email ++ [colon] ++ ofString password)).2⟩ := by
    unfold pollSunsynkOne
    rw [hcredentials, Option.map_some, hraw]
  rw [hpoll, ← colon_mem_ofString, ← splitCredential_eq_iff (ofString email) (ofString password), Prod.ext_iff]
  simp

theorem sunsynk_credentials_survive_stored :
    connectSunsynkInverter aes keyEnv (fun _ _ => .ok ⟨"SN-1", 5⟩) ivBytes [] 1
      ⟨ofString "a@b.c", ofString "x:y"⟩ 7 = .ok storedInverter ∧
    pollSunsynkOne aes keyEnv storedInverter = some ⟨"SN-1", ofString "a@b.c", ofString "x:y"⟩ := by
  have h : connectSunsynkInverter aes keyEnv (fun _ _ => .ok ⟨"SN-1", 5⟩) ivBytes [] 1
      ⟨ofString "a@b.c", ofString "x:y"⟩ 7 = .ok storedInverter := by decide +kernel
  exact ⟨h, (sunsynk_credentials_survive (oneText_lawful rfl) rfl "a@b.c" "x:y" h).mpr (by decide)⟩

end IntellApi.SunsynkCredentials
