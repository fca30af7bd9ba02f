import TronLedger.Handlers
import TronLedger.Lib.BigEndian

/-!
# The grammar of paths

`read_bip32_path` and the TIP-712 handler read paths with two parsers of their own. Both are compared
with one grammar, and each is run again with its reads checked against the APDU data.

* `readBip32Path_iff` and `parseTip712_iff`: what each of them accepts, and `Holds712` what is kept.
* `path_grammar`: the two agree, and neither reads behind the data.
-/

namespace TronLedger

/-- A word of a path, big-endian. -/
def wordBytes (word : UInt32) : Bytes := beBytes 4 word.toNat

/-- A count from 2 to 10, as many words, of which the first two are the prefix, and anything. -/
structure PathGrammar (buffer : Bytes) (words : List UInt32) (rest : Bytes) : Prop where
  least : 2 ≤ words.length
  most : words.length ≤ 10
  tron : words.take 2 = tronBip32Prefix
  shape : buffer = UInt8.ofNat words.length :: (words.flatMap wordBytes ++ rest)

/-- What the handler does with its data before it derives a key: the context it leaves, and the path
where it goes on. -/
def parseTip712 (workBuffer : Bytes) (context : MessageSigningContext712) :
    MessageSigningContext712 × Option Bip32Path :=
  match workBuffer with
  | [] => (context, none)
  | pathLength :: data =>
    let context := { context with pathLength := pathLength }
    if pathLength < 1 ∨ 10 < pathLength then (context, none)
    else
      let (path, rest) := readPath712 pathLength.toNat 0 data context.bip32Path
      let context := { context with bip32Path := path }
      match rest with
      | none => (context, none)
      | some data =>
        if pathLength < 2 ∨ path.toList.take 2 ≠ tronBip32Prefix then (context, none)
        else if data.length < 32 * 2 then (context, none)
        else ({ context with
          domainHash := Buf.ofBytes 32 (data.take 32)
          messageHash := Buf.ofBytes 32 ((data.drop 32).take 32) }, some (path.toList.take pathLength.toNat))

section Handler

variable {σ κ : Type} (sdk : Sdk σ κ)

/-- What the handler does with a path: `initPublicKeyContext` and the review. -/
def reviewTip712 (path : Bip32Path) (w : World σ κ) : World σ κ :=
  match initPublicKeyContext sdk path w.app.publicKeyContext w.app.ui.fromAddress with
  | none => w.ioSendSw .securityStatusNotSatisfied
  | some (context, fromAddress) =>
    let rawAddress := getAddressFromPublicKey sdk context.publicKey.bytes
    uxFlowDisplay sdk .signTip72Transaction false
      { w with app := { w.app with
        publicKeyContext := context
        ui := { w.app.ui with
          fromAddress := fromAddress
          senderContact := getAddressBookContact w.app.contacts rawAddress } } }

/-- The answer of the handler to what its parser says. -/
def answerTip712 (w : World σ κ) : MessageSigningContext712 × Option Bip32Path → World σ κ
  | (context, none) => (w.setTip712 context).ioSendSw .incorrectData
  | (context, some path) => reviewTip712 sdk path (w.setTip712 context)

/-- The handler is its parser, and what follows it. -/
theorem handleSignTIP712Message_eq {w : World σ κ} (setting : w.app.settings.signByHash = true) (workBuffer : Bytes) :
    handleSignTIP712Message sdk 0 0 workBuffer w =
      answerTip712 sdk w (parseTip712 workBuffer w.app.messageSigningContext712) := by
  have on : ¬(!w.app.settings.signByHash) = true := by simp [setting]
  unfold handleSignTIP712Message parseTip712
  rw [if_neg on, if_neg (by simp)]
  cases workBuffer with
  | nil => rfl
  | cons pathLength data =>
    dsimp only
    by_cases count : pathLength < 1 ∨ 10 < pathLength
    · rw [if_pos count, if_pos count]
      rfl
    rw [if_neg count, if_neg count]
    have kept : (w.setTip712 { w.app.messageSigningContext712 with pathLength := pathLength }).app.messageSigningContext712.bip32Path =
        w.app.messageSigningContext712.bip32Path := rfl
    rw [kept]
    obtain ⟨path, rest⟩ := readPath712 pathLength.toNat 0 data w.app.messageSigningContext712.bip32Path
    cases rest with
    | none => rfl
    | some data =>
      dsimp only
      by_cases tron : pathLength < 2 ∨ path.toList.take 2 ≠ tronBip32Prefix
      · rw [if_pos tron, if_pos tron]
        rfl
      rw [if_neg tron, if_neg tron]
      by_cases short : data.length < 32 * 2
      · rw [if_pos short, if_pos short]
        rfl
      rw [if_neg short, if_neg short]
      rfl

end Handler

section Words

theorem wordBytes_length (word : UInt32) : (wordBytes word).length = 4 := beBytes_length 4 _

theorem words_length (words : List UInt32) : (words.flatMap wordBytes).length = 4 * words.length := by
  induction words with
  | nil => rfl
  | cons word words ih =>
    rw [List.flatMap_cons, List.length_append, wordBytes_length, ih, List.length_cons]
    omega

theorem readWords_length (n : Nat) (data : Bytes) : (readWords n data).length = n := by
  induction n generalizing data with
  | zero => rfl
  | succ n ih => rw [readWords, List.length_cons, ih]

/-- Four bytes are those of the word they are read as. -/
theorem wordBytes_read {bs : Bytes} (four : bs.length = 4) : wordBytes (UInt32.ofNat (beNat bs)) = bs := by
  have below := beNat_lt bs
  rw [four] at below
  exact beBytes_eq four (UInt32.toNat_ofNat_of_lt' below).symm

theorem read_wordBytes (word : UInt32) : UInt32.ofNat (beNat (wordBytes word)) = word := by
  have small := word.toNat_lt
  rw [wordBytes, beNat_beBytes, Nat.mod_eq_of_lt (by omega), UInt32.ofNat_toNat]

theorem readWords_words (words : List UInt32) (rest : Bytes) :
    readWords words.length (words.flatMap wordBytes ++ rest) = words := by
  induction words with
  | nil => rfl
  | cons word words ih =>
    rw [List.length_cons, readWords, List.flatMap_cons, List.append_assoc, List.take_left' (wordBytes_length word),
      List.drop_left' (wordBytes_length word), ih, read_wordBytes]

/-- Enough bytes are words and a rest. -/
theorem words_split {n : Nat} (data : Bytes) (enough : 4 * n ≤ data.length) :
    data = (readWords n data).flatMap wordBytes ++ data.drop (4 * n) := by
  induction n generalizing data with
  | zero => rfl
  | succ n ih =>
    have rest := ih (data.drop 4) (by rw [List.length_drop]; omega)
    rw [readWords, List.flatMap_cons, wordBytes_read (by rw [List.length_take]; omega), List.append_assoc,
      Nat.mul_succ, Nat.add_comm (4 * n) 4, ← List.drop_drop, ← rest, List.take_append_drop]

end Words

section Parsers

variable {buffer : Bytes} {words : List UInt32} {rest : Bytes}

/-- The bytes determine the path, and where it ends. -/
theorem PathGrammar.unique {words' : List UInt32} {rest' : Bytes} (path : PathGrammar buffer words rest)
    (path' : PathGrammar buffer words' rest') : words = words' ∧ rest = rest' := by
  have least := path.most
  have least' := path'.most
  obtain ⟨count, behind⟩ := List.cons.inj (path.shape.symm.trans path'.shape)
  have length : words.length = words'.length := by
    have same := congrArg UInt8.toNat count
    rw [UInt8.toNat_ofNat_of_lt' (Nat.lt_of_le_of_lt path.most (by decide)),
      UInt8.toNat_ofNat_of_lt' (Nat.lt_of_le_of_lt path'.most (by decide))] at same
    exact same
  have read := readWords_words words rest
  rw [behind, length, readWords_words] at read
  subst read
  exact ⟨rfl, List.append_cancel_left behind⟩

/-- **`read_bip32_path` reads the grammar.** -/
theorem readBip32Path_iff (buffer : Bytes) (path path' : Bip32Path) (n : Nat) :
    readBip32Path buffer path = (path', some n) ↔
      ∃ rest, PathGrammar buffer path' rest ∧ n = 1 + 4 * path'.length := by
  constructor
  · intro accepted
    cases buffer with
    | nil => simp [readBip32Path] at accepted
    | cons pathLength data =>
      simp only [readBip32Path] at accepted
      split_ifs at accepted with count short tron
      · exact absurd (congrArg Prod.snd accepted).symm (Option.some_ne_none _)
      · exact absurd (congrArg Prod.snd accepted).symm (Option.some_ne_none _)
      · obtain ⟨rfl, size⟩ := Prod.mk.inj accepted
        rw [Option.some.injEq] at size
        have length := readWords_length pathLength.toNat data
        have prefix_length := congrArg List.length tron
        rw [List.length_take, length] at prefix_length
        have two : tronBip32Prefix.length = 2 := rfl
        refine ⟨data.drop (4 * pathLength.toNat), ⟨by omega, by omega, tron, ?_⟩, by omega⟩
        rw [length, ← words_split data (by omega), UInt8.ofNat_toNat]
      · exact absurd (congrArg Prod.snd accepted).symm (Option.some_ne_none _)
  · rintro ⟨rest, grammar, rfl⟩
    have least := grammar.least
    have most := grammar.most
    have count : (UInt8.ofNat path'.length).toNat = path'.length :=
      UInt8.toNat_ofNat_of_lt' (Nat.lt_of_le_of_lt most (by decide))
    have length := words_length path'
    rw [grammar.shape]
    simp only [readBip32Path]
    rw [count, if_neg (by omega), if_neg (by rw [List.length_append]; omega), readWords_words, if_pos grammar.tron]

/-- The loop of the handler writes words over the array, or runs out of data. -/
theorem readPath712_eq (n i : Nat) (data : Bytes) (path : Vector UInt32 10) (room : i + n ≤ 10) :
    if 4 * n ≤ data.length then
      (readPath712 n i data path).1.toList = path.toList.take i ++ readWords n data ++ path.toList.drop (i + n) ∧
        (readPath712 n i data path).2 = some (data.drop (4 * n))
    else (readPath712 n i data path).2 = none := by
  induction n generalizing i data path with
  | zero => simp [readPath712, readWords]
  | succ n ih =>
    rw [readPath712]
    by_cases short : data.length < 4
    · rw [if_pos short, if_neg (by omega)]
    · rw [if_neg short]
      have ten : path.toList.length = 10 := Vector.length_toList
      have later := ih (i + 1) (data.drop 4) (path.setIfInBounds i (UInt32.ofNat (beNat (data.take 4)))) (by omega)
      rw [List.length_drop] at later
      by_cases enough : 4 * (n + 1) ≤ data.length
      · rw [if_pos (by omega)] at later
        obtain ⟨words, behind⟩ := later
        rw [Vector.toList_setIfInBounds] at words
        have front : (path.toList.set i (UInt32.ofNat (beNat (data.take 4)))).take (i + 1) =
            path.toList.take i ++ [UInt32.ofNat (beNat (data.take 4))] := by
          rw [List.take_succ_eq_append_getElem (by rw [List.length_set]; omega), List.take_set_of_le (Nat.le_refl i),
            List.getElem_set_self]
        have back : (path.toList.set i (UInt32.ofNat (beNat (data.take 4)))).drop (i + 1 + n) =
            path.toList.drop (i + (n + 1)) := by
          rw [List.drop_set_of_lt (by omega), Nat.add_assoc, Nat.add_comm 1 n]
        rw [if_pos enough, words, behind, readWords, front, back, List.drop_drop, Nat.mul_succ, Nat.add_comm 4 (4 * n)]
        simp
      · rw [if_neg (by omega)] at later
        rw [if_neg enough]
        exact later

/-- What the handler keeps of a path with `hashes` behind it; the array keeps what is behind the path. -/
structure Holds712 (context context' : MessageSigningContext712) (path : Bip32Path) (hashes : Bytes) : Prop where
  length : context'.pathLength.toNat = path.length
  path : context'.bip32Path.toList = path ++ context.bip32Path.toList.drop path.length
  domainHash : context'.domainHash = Buf.ofBytes 32 (hashes.take 32)
  messageHash : context'.messageHash = Buf.ofBytes 32 ((hashes.drop 32).take 32)

/-- The path is in front of the array. -/
theorem Holds712.front {context context' : MessageSigningContext712} {path : Bip32Path} {hashes : Bytes}
    (holds : Holds712 context context' path hashes) : context'.bip32Path.toList.take context'.pathLength.toNat = path := by
  rw [holds.length, holds.path, List.take_left]

theorem parseTip712_accepted {context context' : MessageSigningContext712} {path : Bip32Path}
    (accepted : parseTip712 buffer context = (context', some path)) :
    ∃ rest, PathGrammar buffer path rest ∧ 64 ≤ rest.length ∧ Holds712 context context' path rest := by
  cases buffer with
  | nil => simp [parseTip712] at accepted
  | cons pathLength data =>
    simp only [parseTip712] at accepted
    by_cases count : pathLength < 1 ∨ 10 < pathLength
    · rw [if_pos count] at accepted
      exact absurd (congrArg Prod.snd accepted).symm (Option.some_ne_none _)
    rw [if_neg count] at accepted
    have most : pathLength.toNat ≤ 10 := by
      have := UInt8.not_lt.mp (fun more => count (.inr more))
      exact UInt8.le_iff_toNat_le.mp this
    have words := readPath712_eq pathLength.toNat 0 data context.bip32Path (by omega)
    generalize readPath712 pathLength.toNat 0 data context.bip32Path = found at words accepted
    obtain ⟨array, behind⟩ := found
    by_cases enough : 4 * pathLength.toNat ≤ data.length
    · rw [if_pos enough, List.take_zero, List.nil_append, Nat.zero_add] at words
      obtain ⟨words, rfl⟩ := words
      have length := readWords_length pathLength.toNat data
      dsimp only at accepted words
      split_ifs at accepted with tron short
      · exact absurd (congrArg Prod.snd accepted).symm (Option.some_ne_none _)
      · exact absurd (congrArg Prod.snd accepted).symm (Option.some_ne_none _)
      · obtain ⟨rfl, same⟩ := Prod.mk.inj accepted
        rw [Option.some.injEq, words, List.take_left' length] at same
        subst same
        have two : ¬pathLength.toNat < 2 := fun less => tron (.inl (UInt8.lt_iff_toNat_lt.mpr less))
        have own : (readWords pathLength.toNat data).take 2 = tronBip32Prefix := by
          have whole := not_not.mp fun other => tron (.inr other)
          rwa [words, List.take_append_of_le_length (by omega)] at whole
        refine ⟨data.drop (4 * pathLength.toNat), ⟨by omega, by omega, own, ?_⟩, by omega, ?_⟩
        · rw [length, ← words_split data enough, UInt8.ofNat_toNat]
        · exact ⟨length.symm, by rw [words, length], rfl, rfl⟩
    · rw [if_neg enough] at words
      dsimp only at words
      subst words
      exact absurd (congrArg Prod.snd accepted).symm (Option.some_ne_none _)

theorem parseTip712_grammar {path : Bip32Path} (grammar : PathGrammar buffer path rest) (long : 64 ≤ rest.length)
    (context : MessageSigningContext712) : ∃ context', parseTip712 buffer context = (context', some path) := by
  have least := grammar.least
  have most := grammar.most
  have count : (UInt8.ofNat path.length).toNat = path.length :=
    UInt8.toNat_ofNat_of_lt' (Nat.lt_of_le_of_lt most (by decide))
  have length := words_length path
  have inRange : ¬(UInt8.ofNat path.length < 1 ∨ 10 < UInt8.ofNat path.length) := by
    rw [UInt8.lt_iff_toNat_lt, UInt8.lt_iff_toNat_lt, count]
    have one : (1 : UInt8).toNat = 1 := rfl
    have ten : (10 : UInt8).toNat = 10 := rfl
    omega
  have two : ¬UInt8.ofNat path.length < 2 := by
    rw [UInt8.lt_iff_toNat_lt, count]
    have two : (2 : UInt8).toNat = 2 := rfl
    omega
  have words := readPath712_eq path.length 0 (path.flatMap wordBytes ++ rest) context.bip32Path (by omega)
  rw [if_pos (by rw [List.length_append]; omega), readWords_words, List.take_zero, List.nil_append, Nat.zero_add,
    List.drop_left' length] at words
  rw [grammar.shape]
  simp only [parseTip712]
  rw [if_neg inRange, count]
  generalize readPath712 path.length 0 (path.flatMap wordBytes ++ rest) context.bip32Path = found at words
  obtain ⟨array, behind⟩ := found
  obtain ⟨words, rfl⟩ := words
  dsimp only at words
  have own : array.toList.take 2 = tronBip32Prefix := by
    rw [words, List.take_append_of_le_length least]
    exact grammar.tron
  dsimp only
  rw [if_neg (not_or.mpr ⟨two, not_not.mpr own⟩), if_neg (by omega), words, List.take_left' rfl]
  exact ⟨_, rfl⟩

/-- **The parser of the handler reads the grammar with the hashes behind it.** -/
theorem parseTip712_iff (buffer : Bytes) (context : MessageSigningContext712) (path : Bip32Path) :
    (∃ context', parseTip712 buffer context = (context', some path)) ↔
      ∃ rest, PathGrammar buffer path rest ∧ 64 ≤ rest.length := by
  constructor
  · rintro ⟨context', accepted⟩
    obtain ⟨rest, grammar, long, -⟩ := parseTip712_accepted accepted
    exact ⟨rest, grammar, long⟩
  · rintro ⟨rest, grammar, long⟩
    exact parseTip712_grammar grammar long context

end Parsers

section Reads

/-- `U4BE` of `n` words from `offset` on; `none` behind the data. -/
def readWordsAt (data : Bytes) : Nat → Nat → Option (List UInt32)
  | 0, _ => some []
  | n + 1, offset =>
    match readSlice data offset 4 with
    | none => none
    | some word => (readWordsAt data n (offset + 4)).map (UInt32.ofNat (beNat word) :: ·)

/-- `read_bip32_path` with its reads checked. -/
def readBip32PathRead (buffer : Bytes) (path : Bip32Path) : Option (Bip32Path × Option Nat) :=
  if buffer.length < 1 then some (path, none)
  else
    match buffer[0]? with
    | none => none
    | some pathLength =>
      let n := pathLength.toNat
      if n < 1 ∨ 10 < n then some (path, none)
      else if buffer.length < 1 + 4 * n then some (path, none)
      else
        match readWordsAt buffer n 1 with
        | none => none
        | some path => if path.take 2 = tronBip32Prefix then some (path, some (1 + 4 * n)) else some (path, none)

/-- The loop of the handler with its pointer, `workBuffer`, and the length that is left. -/
def readPath712Read (data : Bytes) :
    Nat → Nat → Nat → Nat → Vector UInt32 10 → Option (Vector UInt32 10 × Option (Nat × Nat))
  | 0, _, workBuffer, dataLength, path => some (path, some (workBuffer, dataLength))
  | n + 1, i, workBuffer, dataLength, path =>
    if dataLength < 4 then some (path, none)
    else
      match readSlice data workBuffer 4 with
      | none => none
      | some word =>
        readPath712Read data n (i + 1) (workBuffer + 4) (dataLength - 4)
          (path.setIfInBounds i (UInt32.ofNat (beNat word)))

/-- The parser of the handler with its reads checked. -/
def parseTip712Read (data : Bytes) (context : MessageSigningContext712) :
    Option (MessageSigningContext712 × Option Bip32Path) :=
  if data.length < 1 then some (context, none)
  else
    match data[0]? with
    | none => none
    | some pathLength =>
      let context := { context with pathLength := pathLength }
      if pathLength < 1 ∨ 10 < pathLength then some (context, none)
      else
        match readPath712Read data pathLength.toNat 0 1 (data.length - 1) context.bip32Path with
        | none => none
        | some (path, place) =>
          let context := { context with bip32Path := path }
          match place with
          | none => some (context, none)
          | some (workBuffer, dataLength) =>
            if pathLength < 2 ∨ path.toList.take 2 ≠ tronBip32Prefix then some (context, none)
            else if dataLength < 32 * 2 then some (context, none)
            else
              match readSlice data workBuffer 32, readSlice data (workBuffer + 32) 32 with
              | some domainHash, some messageHash =>
                some ({ context with
                  domainHash := Buf.ofBytes 32 domainHash
                  messageHash := Buf.ofBytes 32 messageHash }, some (path.toList.take pathLength.toNat))
              | _, _ => none

theorem readSlice_inside {bs : Bytes} {offset length : Nat} (inside : offset + length ≤ bs.length) :
    readSlice bs offset length = some ((bs.drop offset).take length) := if_pos inside

theorem readWordsAt_eq (data : Bytes) (n offset : Nat) (inside : offset + 4 * n ≤ data.length) :
    readWordsAt data n offset = some (readWords n (data.drop offset)) := by
  induction n generalizing offset with
  | zero => rfl
  | succ n ih =>
    rw [readWordsAt, readSlice_inside (by omega)]
    dsimp only
    rw [ih _ (by omega), Option.map_some, readWords, List.drop_drop]

theorem readBip32PathRead_eq (buffer : Bytes) (path : Bip32Path) :
    readBip32PathRead buffer path = some (readBip32Path buffer path) := by
  cases buffer with
  | nil => rfl
  | cons pathLength words =>
    unfold readBip32PathRead readBip32Path
    rw [if_neg (by simp), List.getElem?_cons_zero]
    dsimp only
    by_cases count : pathLength.toNat < 1 ∨ 10 < pathLength.toNat
    · rw [if_pos count, if_pos count]
    rw [if_neg count, if_neg count, List.length_cons]
    by_cases short : words.length < 4 * pathLength.toNat
    · rw [if_pos (by omega), if_pos short]
    rw [if_neg (by omega), if_neg short, readWordsAt_eq _ _ _ (by rw [List.length_cons]; omega), List.drop_succ_cons,
      List.drop_zero]
    dsimp only
    split <;> rfl

theorem readPath712Read_eq (data : Bytes) (n i : Nat) {workBuffer dataLength : Nat} (path : Vector UInt32 10)
    (ends : workBuffer + dataLength = data.length) :
    ∃ place, readPath712Read data n i workBuffer dataLength path =
        some ((readPath712 n i (data.drop workBuffer) path).1, place) ∧
      match (readPath712 n i (data.drop workBuffer) path).2 with
      | none => place = none
      | some rest => ∃ offset, place = some (offset, rest.length) ∧ rest = data.drop offset ∧
          offset + rest.length = data.length := by
  induction n generalizing i workBuffer dataLength path with
  | zero =>
    have length : (data.drop workBuffer).length = dataLength := by
      rw [List.length_drop]
      omega
    refine ⟨_, rfl, workBuffer, ?_, rfl, ?_⟩
    · rw [length]
    · rw [length, ends]
  | succ n ih =>
    have length : (data.drop workBuffer).length = dataLength := by
      rw [List.length_drop]
      omega
    rw [readPath712Read, readPath712, length]
    by_cases short : dataLength < 4
    · rw [if_pos short, if_pos short]
      exact ⟨none, rfl, rfl⟩
    · rw [if_neg short, if_neg short, readSlice_inside (by omega), List.drop_drop]
      exact ih (i + 1) _ (by omega)

/-- **Every read of the handler's parser is inside the data.** -/
theorem parseTip712Read_eq (data : Bytes) (context : MessageSigningContext712) :
    parseTip712Read data context = some (parseTip712 data context) := by
  cases data with
  | nil => rfl
  | cons pathLength words =>
    unfold parseTip712Read parseTip712
    rw [if_neg (by simp), List.getElem?_cons_zero]
    dsimp only
    by_cases count : pathLength < 1 ∨ 10 < pathLength
    · rw [if_pos count, if_pos count]
    rw [if_neg count, if_neg count]
    obtain ⟨place, read, found⟩ := readPath712Read_eq (pathLength :: words) pathLength.toNat 0 context.bip32Path
      (show 1 + ((pathLength :: words).length - 1) = (pathLength :: words).length by simp; omega)
    rw [read]
    rw [List.drop_succ_cons, List.drop_zero] at found ⊢
    generalize readPath712 pathLength.toNat 0 words context.bip32Path = result at found ⊢
    obtain ⟨path, rest⟩ := result
    cases rest with
    | none =>
      dsimp only at found
      subst found
      rfl
    | some rest =>
      obtain ⟨offset, rfl, rest_eq, ends⟩ := found
      dsimp only
      by_cases tron : pathLength < 2 ∨ path.toList.take 2 ≠ tronBip32Prefix
      · rw [if_pos tron, if_pos tron]
      rw [if_neg tron, if_neg tron]
      by_cases short : rest.length < 32 * 2
      · rw [if_pos short, if_pos short]
      rw [if_neg short, if_neg short, readSlice_inside (by omega), readSlice_inside (by omega), ← List.drop_drop, ← rest_eq]

end Reads

/-- **One grammar for both parsers.** The handler takes what `read_bip32_path` takes if 64 bytes follow,
keeps the same path with its length and these bytes for its hashes. Neither parser reads behind its data. -/
theorem path_grammar :
    (∀ (buffer : Bytes) (old : Bip32Path),
      (∀ path n, readBip32Path buffer old = (path, some n) ↔
        ∃ rest, PathGrammar buffer path rest ∧ n = 1 + 4 * path.length) ∧
      readBip32PathRead buffer old = some (readBip32Path buffer old)) ∧
    (∀ (buffer : Bytes) (old : Bip32Path) (context : MessageSigningContext712),
      ((∃ context' path, parseTip712 buffer context = (context', some path)) ↔
        ∃ path n, readBip32Path buffer old = (path, some n) ∧ n + 64 ≤ buffer.length) ∧
      (∀ context' path, parseTip712 buffer context = (context', some path) →
        context'.pathLength.toNat = path.length ∧
          context'.bip32Path.toList = path ++ context.bip32Path.toList.drop path.length ∧
          ∃ n, readBip32Path buffer old = (path, some n) ∧ context'.domainHash.bytes = (buffer.drop n).take 32 ∧
            context'.messageHash.bytes = (buffer.drop (n + 32)).take 32) ∧
      parseTip712Read buffer context = some (parseTip712 buffer context)) ∧
    ∀ (σ κ : Type) (sdk : Sdk σ κ) (w : World σ κ) (buffer : Bytes), w.app.settings.signByHash = true →
      handleSignTIP712Message sdk 0 0 buffer w =
        answerTip712 sdk w (parseTip712 buffer w.app.messageSigningContext712) := by
  have behind {buffer : Bytes} {words : List UInt32} {rest : Bytes} (grammar : PathGrammar buffer words rest) :
      buffer.drop (1 + 4 * words.length) = rest := by
    rw [grammar.shape, Nat.add_comm, List.drop_succ_cons, List.drop_left' (words_length words)]
  have length {buffer : Bytes} {words : List UInt32} {rest : Bytes} (grammar : PathGrammar buffer words rest) :
      buffer.length = 1 + 4 * words.length + rest.length := by
    rw [grammar.shape, List.length_cons, List.length_append, words_length]
    omega
  refine ⟨fun buffer old => ⟨readBip32Path_iff buffer old, readBip32PathRead_eq buffer old⟩, ?_,
    fun σ κ sdk w buffer setting => handleSignTIP712Message_eq sdk setting buffer⟩
  intro buffer old context
  refine ⟨⟨?_, ?_⟩, ?_, parseTip712Read_eq buffer context⟩
  · rintro ⟨context', path, accepted⟩
    obtain ⟨rest, grammar, long⟩ := (parseTip712_iff buffer context path).mp ⟨context', accepted⟩
    have whole := length grammar
    exact ⟨path, _, (readBip32Path_iff buffer old path _).mpr ⟨rest, grammar, rfl⟩, by omega⟩
  · rintro ⟨path, n, accepted, long⟩
    obtain ⟨rest, grammar, rfl⟩ := (readBip32Path_iff buffer old path n).mp accepted
    have whole := length grammar
    obtain ⟨context', accepted'⟩ := (parseTip712_iff buffer context path).mpr ⟨rest, grammar, by omega⟩
    exact ⟨context', path, accepted'⟩
  · intro context' path accepted
    obtain ⟨rest, grammar, long, holds⟩ := parseTip712_accepted accepted
    refine ⟨holds.length, holds.path, _, (readBip32Path_iff buffer old path _).mpr ⟨rest, grammar, rfl⟩, ?_, ?_⟩
    · rw [behind grammar, holds.domainHash, Buf.bytes_ofBytes]
      rw [List.length_take]
      omega
    · rw [← List.drop_drop, behind grammar, holds.messageHash, Buf.bytes_ofBytes]
      rw [List.length_take, List.length_drop]
      omega

/-- The path m/44'/195'/0' and two hashes. -/
def tip712Data : Bytes :=
  [3, 0x80, 0, 0, 0x2c, 0x80, 0, 0, 0xc3, 0x80, 0, 0, 0] ++ List.replicate 32 1 ++ List.replicate 32 2

/-- The handler and `read_bip32_path` find the same path. -/
theorem path_grammar_sample : ∃ context' path n, parseTip712 tip712Data default = (context', some path) ∧
    context'.pathLength.toNat = path.length ∧ readBip32Path tip712Data [] = (path, some n) := by
  have read : readBip32Path tip712Data [] = ([0x8000002c, 0x800000c3, 0x80000000], some 13) := by decide +kernel
  obtain ⟨context', path, accepted⟩ :=
    (path_grammar.2.1 tip712Data [] default).1.mpr ⟨_, 13, read, by decide +kernel⟩
  obtain ⟨length, -, n, same, -⟩ := (path_grammar.2.1 tip712Data [] default).2.1 context' path accepted
  exact ⟨context', path, n, accepted, length, same⟩

end TronLedger
