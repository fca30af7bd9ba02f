import TronLedger.AddressReview
import TronLedger.AmountValue

/-!
# The review of a vote

One field for each vote, with the address and the count in slots of the APDU buffer, and the sum
of the counts.

* A count slot has 15 bytes, and `print_amount` leaves it blank when fewer than two stay free:
  counts of 14 digits are not shown.
-/

namespace TronLedger

open Nanopb

section

variable {σ κ : Type} (sdk : Sdk σ κ)

/-- The sum of the counts of a vote. -/
def voteTotal (votes : List Vote) : Int := (votes.map fun vote => vote.voteCount.toInt).sum

/-- The field of vote `i`. -/
def voteField (i : Nat) : TagValue :=
  ⟨.apduBuffer (voteSlot i 0), .apduBuffer (voteSlot i voteAmount), none⟩

/-- The review shows the votes: a field for each, in order, with its address and its count whole
and in their slots, and the sum. -/
structure ShowsVotes (votes : List Vote) (r : Review) : Prop where
  fields : ∃ sender, r.infos.fields = (List.range votes.length).map voteField ++
    [field "Total Vote Count" .fullContract, sender]
  address : ∀ i (inside : i < votes.length), (Slot.apduBuffer (voteSlot i 0)).shown r.ui =
    base58Check sdk votes[i].voteAddress
  count : ∀ i (inside : i < votes.length), (Slot.apduBuffer (voteSlot i voteAmount)).shown r.ui =
    signedDecimal votes[i].voteCount.toInt
  total : Slot.fullContract.shown r.ui =
    decimal votes.length ++ ascii ": " ++ signedDecimal (voteTotal votes)
  apart : ∀ i < votes.length, ((Slot.apduBuffer (voteSlot i 0)).shown r.ui).length < voteAmount ∧
    voteSlot i voteAmount + ((Slot.apduBuffer (voteSlot i voteAmount)).shown r.ui).length <
      voteSlot (i + 1) 0 ∧ voteSlot (i + 1) 0 ≤ 260

/-- What `r` shows of a vote, and when it shows it whole. -/
structure VoteReview (old : Ui) (votes : List Vote) (r : Review) : Prop where
  few : 1 ≤ votes.length ∧ votes.length ≤ 5
  positive : ∀ vote ∈ votes, 0 < vote.voteCount
  shows_iff : ShowsVotes sdk votes r ↔ (∀ vote ∈ votes, vote.voteCount.toInt < 10 ^ 13) ∧
    ∀ l ∈ voteLines sdk r.content.votes.entries 0 old.fullContract, AddressFits sdk l.address l.old

section Texts

/-- A positive count is its decimal, where the slot has room for it. -/
theorem amountShown_count {amount : UInt64} (positive : 0 < amount.toNat) :
    amountShown amount 15 0 = if amount.toNat < 10 ^ 13 then decimal amount.toNat else [] := by
  have nonempty : amountText amount ≠ [] := by
    intro none
    have value := (amountText_value amount).2
    rw [none] at value
    simp only [digitsValue, List.foldl_nil] at value
    omega
  have text := amountText_eq positive
  have digits : (decimal amount.toNat).length ≤ 20 := by
    rw [decimal_length_le (by decide)]
    exact amount.toNat_lt.trans (by decide)
  have whole : adjustDecimals (amountText amount) 25 0 = some (amountText amount) :=
    adjustDecimals_zero nonempty (by rw [text]; omega)
  have short : (decimal amount.toNat).length < 15 - 1 ↔ amount.toNat < 10 ^ 13 := by
    rw [← decimal_length_le (by decide)]
    omega
  rw [amountShown, whole, text, fitted]
  simp only [short]

/-- The unsigned reading of a positive count is the count. -/
theorem toUInt64_of_pos {count : Int64} (positive : 0 < count) :
    (count.toUInt64.toNat : Int) = count.toInt := by
  have lo : 0 < count.toInt := Int64.lt_iff_toInt_lt.mp positive
  rw [toUInt64_toNat, if_neg (by omega)]

theorem signedDecimal_of_pos {count : Int64} (positive : 0 < count) :
    signedDecimal count.toInt = decimal count.toUInt64.toNat := by
  have lo : 0 < count.toInt := Int64.lt_iff_toInt_lt.mp positive
  rw [← toUInt64_of_pos positive, signedDecimal, if_neg (by omega), Int.natAbs_natCast]

/-- The slot of a positive count shows it exactly when it has at most 13 digits. -/
theorem amountShown_count_iff {count : Int64} (positive : 0 < count) :
    amountShown count.toUInt64 15 0 = signedDecimal count.toInt ↔ count.toInt < 10 ^ 13 := by
  have lo : 0 < count.toInt := Int64.lt_iff_toInt_lt.mp positive
  have value := toUInt64_of_pos positive
  rw [amountShown_count (by omega), signedDecimal_of_pos positive]
  split
  · rename_i short
    exact ⟨fun _ => by omega, fun _ => rfl⟩
  · rename_i long
    constructor
    · intro same
      exact absurd same.symm (decimal_nonempty _)
    · intro short
      omega

theorem amountShown_count_nonzero {count : Int64} (positive : 0 < count) :
    ∀ c ∈ amountShown count.toUInt64 15 0, c ≠ 0 := by
  have lo : 0 < count.toInt := Int64.lt_iff_toInt_lt.mp positive
  have value := toUInt64_of_pos positive
  rw [amountShown_count (by omega)]
  split
  · exact decimal_nonzero _
  · simp

end Texts

section Slots

variable {sdk : Sdk σ κ} {ctx : RenderContext σ κ} {ui : Ui}

variable (ctx ui) in
/-- The count slot of each vote. -/
theorem putVotes_count (votes : List VoteEntry) (index : Nat) (few : index + votes.length ≤ 5)
    (positive : ∀ vote ∈ votes, 0 < vote.count) (i : Nat) (inside : i < votes.length) :
    (Ui.putVotes ctx votes index ui).apduBuffer.str (voteSlot (index + i) voteAmount) =
      amountShown votes[i].count.toUInt64 15 0 := by
  induction votes generalizing index ui i with
  | nil => simp at inside
  | cons vote votes ih =>
    rw [List.length_cons] at few inside
    cases i with
    | zero =>
      have own : 0 < vote.count := positive vote List.mem_cons_self
      have short := amountShown_length vote.count.toUInt64 15 0
      have slot (k : Nat) (small : k ≤ (amountShown vote.count.toUInt64 15 0).length) :
          (Ui.putVotes ctx (vote :: votes) index ui).apduBuffer.bytes[voteSlot index voteAmount + k]? =
            (amountShown vote.count.toUInt64 15 0 ++ [0])[k]? := by
        rw [Ui.putVotes, putVotes_before votes (index + 1) (by omega), putVote_count index vote (by omega) k small]
        simp only [voteSlot, voteAmount]
        omega
      refine (Buf.str_eq_iff _ _ (amountShown_count_nonzero own) (fun k bound => ?_) ?_).mpr ?_
      · rw [Nat.add_zero, slot k (by omega), List.getElem?_append_left bound]
      · simp only [voteSlot, voteAmount]
        omega
      · rw [Nat.add_zero, slot _ le_rfl, List.getElem?_append_right le_rfl]
        simp
    | succ i =>
      have later := ih (Ui.putVote ctx index vote ui) (index + 1) (by omega)
        (fun v among => positive v (List.mem_cons_of_mem _ among)) i (by omega)
      rw [Nat.add_assoc, Nat.add_comm 1 i] at later
      exact later

variable (ctx ui) in
/-- The text of each address ends within its slot. -/
theorem putVotes_nul (votes : List VoteEntry) (index : Nat) (few : index + votes.length ≤ 5) (i : Nat)
    (inside : i < votes.length) :
    (Ui.putVotes ctx votes index ui).apduBuffer.bytes[voteSlot (index + i) 0 + 34]? = some 0 := by
  induction votes generalizing index ui i with
  | nil => simp at inside
  | cons vote votes ih =>
    rw [List.length_cons] at few inside
    cases i with
    | zero =>
      have below : voteSlot index 0 + 34 < voteSlot (index + 1) 0 := by
        simp only [voteSlot]
        omega
      have nul := getBase58FromAddress_nul ctx.sdk vote.address ui.fullContract
        (show 0 + 35 ≤ 67 by decide)
      rw [Nat.add_zero index, Ui.putVotes, putVotes_before votes (index + 1) (by omega) below,
        putVote_address index vote (by omega) 34 le_rfl]
      exact nul
    | succ i =>
      have later := ih (Ui.putVote ctx index vote ui) (index + 1) (by omega) i (by omega)
      rw [Nat.add_assoc, Nat.add_comm 1 i] at later
      exact later

/-- A vote review has a field for each vote, the total and the sender. -/
theorem prepareTxInfos_votes {dataWarning : Bool} {type : ContractType} {infos : TxInfos}
    (ready : prepareTxInfos .witnessVoteTransaction dataWarning type ui = .ready infos) :
    ∃ sender, infos.fields = (List.range ui.votesCount).map voteField ++
      [field "Total Vote Count" .fullContract, sender] := by
  obtain ⟨fields, inserted, shown⟩ := prepareTxInfos_fields ready
  have noAddress : ∀ f ∈ reviewFields .witnessVoteTransaction type ui, f.value ≠ .toAddress := by
    intro f among
    simp only [reviewFields, List.mem_append, List.mem_map, List.mem_cons, List.not_mem_nil,
      or_false] at among
    obtain ⟨i, -, rfl⟩ | rfl | rfl := among <;> simp [field]
  have same : fields = reviewFields .witnessVoteTransaction type ui := by
    rcases insertKnownServiceLabel_cases inserted with same | ⟨label, before, address, after, -, whole, own, -⟩
    · exact same
    · exact absurd own (noAddress address (by simp [whole]))
  rw [shown]
  refine ⟨if ui.senderContact.isSome then { field "From" .fromAddress with contact := ui.senderContact }
    else field "From" .fromAddress, ?_⟩
  simp only [same, reviewFields, applyAddressBookAliases, List.map_append, List.map_map, List.map_cons,
    List.map_nil]
  congr 1
  · refine List.map_congr_left fun i _ => ?_
    simp [voteField]
  · simp [field]

theorem totalCount_eq {votes : List Vote} {entries : List VoteEntry}
    (same : entries = votes.map fun vote => VoteEntry.mk vote.voteAddress vote.voteCount)
    (positive : ∀ vote ∈ votes, 0 < vote.voteCount) : (totalCount entries : Int) = voteTotal votes := by
  subst same
  induction votes with
  | nil => rfl
  | cons vote votes ih =>
    have own := toUInt64_of_pos (positive vote List.mem_cons_self)
    have rest := ih fun v among => positive v (List.mem_cons_of_mem _ among)
    simp only [totalCount, voteTotal, List.map_cons, List.sum_cons, Nat.cast_add] at rest ⊢
    rw [own, rest]

end Slots

section Whole

variable {sdk : Sdk σ κ}

/-- The parts of the buffers that a vote leaves. -/
theorem votes_shown {ctx : RenderContext σ κ} {content : TxContent} {before shown : Ui}
    (votes : VotesShow ctx content before .witnessVoteTransaction shown) :
    shown.votesCount = content.votes.entries.length ∧
      shown.fullContract.str 0 = decimal content.votes.entries.length ++ ascii ": " ++
        decimal (totalCount content.votes.entries) ∧
      shown.apduBuffer = (Ui.putVotes ctx content.votes.entries 0 { before with
        apduBuffer := before.apduBuffer.write 0 (List.replicate 200 0)
        votesCount := content.votes.entries.length }).apduBuffer := by
  have bounded := content.votes.bounded
  refine ⟨?_, ?_, ?_⟩
  · rw [votes.shown_eq]
    exact votesCount_putVotes _ _ _
  · have total : (decimal (totalCount content.votes.entries)).length ≤ 20 := by
      rw [decimal_length_le (by decide)]
      exact votes.total.trans (by decide)
    have number : (decimal content.votes.entries.length).length ≤ 1 := by
      rw [decimal_length_le (by decide)]
      omega
    rw [votes.shown_eq]
    have colon : (ascii ": ").length = 2 := by decide
    refine Buf.str_strlcpy _ 0 67 _ ?_ ?_ ?_
    · intro c among
      simp only [List.mem_append] at among
      rcases among with (digit | colon) | digit
      · exact decimal_nonzero _ c digit
      · revert c
        decide +kernel
      · exact decimal_nonzero _ c digit
    · simp only [List.length_append]
      omega
    · simp only [List.length_append]
      omega
  · rw [votes.shown_eq]
    rfl

/-- What is shown of a vote that was read. -/
theorem voteReview {ctx : RenderContext σ κ} {r : Review} {old before : Ui} {votes : List Vote}
    (encodes : ctx.sdk.EncodesBase58) (received : old.Received before)
    (shows : TransactionShows ctx r.content before r.infos.state r.ui)
    (ready : prepareTxInfos r.infos.state r.infos.dataWarning r.content.contractType r.ui = .ready r.infos)
    (type : r.content.contractType = .voteWitness)
    (same : r.content.votes.entries = votes.map fun vote => VoteEntry.mk vote.voteAddress vote.voteCount) :
    VoteReview ctx.sdk old votes r := by
  have vote : VotesShow ctx r.content (renderSender ctx r.content before) r.infos.state r.ui := by
    have contract := shows.contract
    simpa only [ContractShows, type] using contract
  have kind := vote.kind_eq
  rw [kind] at vote ready
  have length : r.content.votes.entries.length = votes.length := by rw [same, List.length_map]
  have few : votes.length ≤ 5 := by rw [← length]; exact r.content.votes.bounded
  have someVote : 1 ≤ votes.length := by
    rw [← length]
    exact List.length_pos_of_ne_nil vote.some
  have positive : ∀ v ∈ votes, 0 < v.voteCount := fun v among =>
    vote.positive ⟨v.voteAddress, v.voteCount⟩ (by rw [same]; exact List.mem_map_of_mem among)
  obtain ⟨count, total, slots⟩ := votes_shown vote
  have same_contract : (renderSender ctx r.content before).fullContract = old.fullContract := by
    obtain ⟨apduBuffer, field, rfl⟩ := received
    unfold renderSender
    split <;> rfl
  have exact := voteLines_iff _ encodes r.content.votes.entries 0 (by omega) slots
  obtain ⟨line, shown⟩ := voteLines_mem ctx.sdk r.content.votes.entries 0 old.fullContract
  rw [same_contract] at exact
  have amount (i : Nat) (inside : i < votes.length) :
      (Slot.apduBuffer (voteSlot i voteAmount)).shown r.ui =
        amountShown votes[i].voteCount.toUInt64 15 0 := by
    have slot := putVotes_count ctx ({ renderSender ctx r.content before with
        apduBuffer := (renderSender ctx r.content before).apduBuffer.write 0 (List.replicate 200 0)
        votesCount := r.content.votes.entries.length }) r.content.votes.entries 0 (by omega) vote.positive i
      (by omega)
    rw [Nat.zero_add, ← slots] at slot
    simp only [Slot.shown, slot, same, List.getElem_map]
  refine ⟨⟨someVote, few⟩, positive, ?_, ?_⟩
  · intro all
    refine ⟨fun v among => ?_, fun l among => ?_⟩
    · obtain ⟨i, inside, rfl⟩ := List.getElem_of_mem among
      rw [← amountShown_count_iff (positive _ among), ← amount i inside]
      exact all.count i inside
    · obtain ⟨i, inside, address, slot, lead, trail⟩ := line l among
      rw [length] at inside
      rw [Nat.zero_add] at slot
      refine (exact l among).mp ?_
      rw [AddressLine.Exact, slot, lead, trail, all.address i inside, address]
      simp [same]
  · rintro ⟨small, fits⟩
    have text (i : Nat) (inside : i < votes.length) : (Slot.apduBuffer (voteSlot i 0)).shown r.ui =
        base58Check ctx.sdk votes[i].voteAddress := by
      obtain ⟨l, among, address, slot, lead, trail⟩ := shown i (by omega)
      have reads := (exact l among).mpr (fits l among)
      rw [Nat.zero_add] at slot
      rw [AddressLine.Exact, slot, lead, trail, address] at reads
      simpa [same] using reads
    have sum : signedDecimal (voteTotal votes) = decimal (totalCount r.content.votes.entries) := by
      rw [← totalCount_eq same positive, signedDecimal, if_neg (by omega), Int.natAbs_natCast]
    refine ⟨?_, text, fun i inside => ?_, ?_, fun i inside => ?_⟩
    · obtain ⟨sender, fields⟩ := prepareTxInfos_votes ready
      rw [count, length] at fields
      exact ⟨sender, fields⟩
    · rw [amount i inside]
      exact (amountShown_count_iff (positive _ (List.getElem_mem inside))).mpr
        (small _ (List.getElem_mem inside))
    · rw [Slot.shown, total, length, sum]
    · have nul := putVotes_nul ctx ({ renderSender ctx r.content before with
          apduBuffer := (renderSender ctx r.content before).apduBuffer.write 0 (List.replicate 200 0)
          votesCount := r.content.votes.entries.length }) r.content.votes.entries 0 (by omega) i (by omega)
      rw [Nat.zero_add, ← slots] at nul
      have short := Buf.str_length_le _ _ _ nul
      have shortAmount := amountShown_length votes[i].voteCount.toUInt64 15 0
      rw [amount i inside]
      simp only [Slot.shown]
      simp only [voteSlot, voteAmount] at short ⊢
      omega

end Whole

end

/-- A vote review of INS_SIGN is that of a vote contract the session carries. -/
def ReviewsVotes {σ κ : Type} (sdk : Sdk σ κ) (old : Ui) (r : Review) (older : List Effect) : Prop :=
  r.content.contractType = .voteWitness → ∃ contract parameter msg rest,
    SessionCarries older contract parameter ∧
    pbDecode VoteWitnessContract.fields (pbIstreamFromBuffer parameter) default = (some rest, msg) ∧
    VoteReview sdk old msg.votes r

/-- **A vote review shows the votes that are signed, whole and in order with their sum, exactly when
every count has at most 13 digits and every address fits.** -/
theorem votes_shown_iff {σ κ : Type} {sdk : Sdk σ κ} (encodes : sdk.EncodesBase58)
    {version : AppVersion} {b : Boot} {es : List Event} {w w' : World σ κ} {c : Command}
    {g : World σ κ → Event → Bool} (run : AppRun sdk version g b es w)
    (stepped : step sdk version w (.apdu c) = some w') (own : c.isSign = true) :
    ∃ news, w'.trace = news ++ w.trace ∧
      AlwaysOver (fun entry older => ∀ r, entry = .review r → ReviewsVotes sdk w.app.ui r older)
        news w.trace := by
  obtain ⟨news, trace, reviewed⟩ := AppRun.reviews sdk run stepped own
  refine ⟨news, trace, reviewed.mono ?_⟩
  rintro entry older reviewed r rfl type
  obtain ⟨⟨content, content_eq, of⟩, ⟨before, called, validated, time, received, shows⟩, ready⟩ := reviewed r rfl
  have same := renderedContent_amount content
  rw [← content_eq] at same
  have type' : content.contractType = .voteWitness := by rw [← type, same]
  have votes : r.content.votes = content.votes := by rw [same]
  obtain ⟨contract, parameter, stored, named, carried, read, -, -, fixed, named_eq⟩ :=
    of.reads (show contractReader content.contractType = some voteWitnessContract by rw [type']; rfl)
  obtain ⟨rest, msg, decoded, stored_eq⟩ := readContract_decodes read
  obtain rfl : named = stored := fixed (by rw [type']; rfl)
  refine ⟨contract, parameter, msg, rest, carried, decoded, ?_⟩
  refine voteReview encodes received shows ready type ?_
  split at stored_eq
  · simp at stored_eq
  · have entries := congrArg (fun stored => stored.2.votes.entries) stored_eq
    rw [votes, named_eq]
    exact entries.symm

/-- Votes for witnesses, each with the bytes of its count. -/
def sampleVotes (votes : List (UInt8 × Bytes)) : Bytes :=
  contractField 4 (delimitedField 1 (sampleAccount 1) ++
    votes.flatMap fun (witness, count) => delimitedField 2 (delimitedField 1 (sampleAccount witness) ++ 0x10 :: count))

/-- Counts of 7, 300 and 1 for accounts of the main net, two of them the same. -/
def threeVotes : Bytes := pathBytes 0 ++ sampleVotes [(3, [7]), (2, [0xac, 2]), (3, [1])]

theorem threeVotes_short : threeVotes.length < 256 := by decide +kernel

/-- Every vote is shown whole, in its place. -/
theorem votes_shown_iff_three : ∃ w',
    step device deviceVersion (boot device deviceBoot) (command Ins.sign P1.sign 0 threeVotes threeVotes_short) = some w' ∧
    (∃ r older, w'.trace = .review r :: older ∧ r.content.votes.entries.map (fun vote => vote.count) = [7, 300, 1]) ∧
    ∃ news, w'.trace = news ++ (boot device deviceBoot).trace ∧
      AlwaysOver (fun entry older => ∀ r, entry = .review r →
        ReviewsVotes device (boot device deviceBoot).app.ui r older) news (boot device deviceBoot).trace := by
  have runs : (step device deviceVersion (boot device deviceBoot)
      (command Ins.sign P1.sign 0 threeVotes threeVotes_short)).any (fun w' => (lastReview w'.trace).any fun found =>
        found.1.content.votes.entries.map (fun vote => vote.count) = [7, 300, 1]) = true := by decide +kernel
  simp only [Option.any_eq_true, decide_eq_true_eq] at runs
  obtain ⟨w', stepped, ⟨r, older⟩, reviewed, counts⟩ := runs
  exact ⟨w', stepped, ⟨r, older, lastReview_eq reviewed, counts⟩,
    votes_shown_iff (fun _ _ => rfl) (g := anyStep) (b := deviceBoot) .start stepped (by decide)⟩

/-- A vote of 10^13. -/
def largeCount : Bytes := [0x80, 0xc0, 0xca, 0xf3, 0x84, 0xa3, 0x02]

/-- The review of a vote of 10^13 shows its count as an empty string. -/
theorem large_vote_blank : ∃ w w' r, AppRun device deviceVersion anyStep deviceBoot [] w ∧
    step device deviceVersion w
      (command Ins.sign P1.sign 0 (pathBytes 0 ++ sampleVotes [(2, largeCount)])) = some w' ∧
    w'.trace.head? = some (.review r) ∧
    r.content.votes.entries.map (fun vote => vote.count) = [10000000000000] ∧
    r.infos.fields.map (fun f => (f.item.shown r.ui, f.value.shown r.ui)) =
      [(base58Check device (Buf.ofBytes 21 (sampleAccount 2)), []),
        (ascii "Total Vote Count", ascii "1: 10000000000000"),
        (ascii "From", base58Check device (Buf.ofBytes 21 (sampleAccount 1)))] := by
  obtain ⟨w, w', r, older, run, stepped, trace, found⟩ := exists_review_step anyStep []
    (command Ins.sign P1.sign 0 (pathBytes 0 ++ sampleVotes [(2, largeCount)]))
    (fun r _ => r.content.votes.entries.map (fun vote => vote.count) = [10000000000000] &&
      r.infos.fields.map (fun f => (f.item.shown r.ui, f.value.shown r.ui)) =
        [(base58Check device (Buf.ofBytes 21 (sampleAccount 2)), []),
          (ascii "Total Vote Count", ascii "1: 10000000000000"),
          (ascii "From", base58Check device (Buf.ofBytes 21 (sampleAccount 1)))]) (by decide +kernel)
  simp only [Bool.and_eq_true, decide_eq_true_eq] at found
  exact ⟨w, w', r, run, stepped, by rw [trace]; rfl, found.1, found.2⟩

end TronLedger
