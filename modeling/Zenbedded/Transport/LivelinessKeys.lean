import Zenbedded.Transport.EndpointPools

namespace Zenbedded.Transport

open Zenbedded.Foundation

/-! # Liveliness keys

The key of an endpoint's liveliness token has a chunk for each property of the
endpoint.  A peer splits it at every `/`, so it finds the properties where no
property brings a separator of its own.
-/

/-- Every chunk is split on its own. -/
theorem splitOn_intercalate_chunks (separator : Char) (chunks : List Text) (nonempty : chunks ≠ []) :
    ([separator].intercalate chunks).splitOn separator =
      chunks.flatMap fun chunk => chunk.splitOn separator := by
  induction chunks with
  | nil => exact absurd rfl nonempty
  | cons chunk chunks inductionHypothesis =>
      cases chunks with
      | nil => simp
      | cons next rest =>
          have later := inductionHypothesis (List.cons_ne_nil next rest)
          rw [List.intercalate_cons_cons, List.append_assoc, List.singleton_append,
            List.splitOn_append_cons_self, later]
          exact List.flatMap_cons.symm

theorem splitOn_cons_length {separator first : Char} (apart : first ≠ separator) (text : Text) :
    ((first :: text).splitOn separator).length = (text.splitOn separator).length := by
  rw [List.splitOn_cons_eq_if_modifyHead, beq_eq_false_iff_ne.mpr apart]
  simp

/-- Chunks that a topic name joins with `/`. -/
structure TopicChunks (chunks : List Text) : Prop where
  some_chunk : chunks ≠ []
  filled : ∀ chunk ∈ chunks, chunk ≠ []
  separator : ∀ chunk ∈ chunks, '/' ∉ chunk
  escape : ∀ chunk ∈ chunks, '%' ∉ chunk

/-- A topic name has a leading `/` or none. -/
def Names (chunks : List Text) (topicName : Text) : Prop :=
  topicName = ['/'].intercalate chunks ∨ topicName = '/' :: ['/'].intercalate chunks

/-- The topic with `%` for every `/`, the leading one included. -/
def mangled (topicName : Text) : Text :=
  '%' :: (cleanTopic topicName).map fun c => if c = '/' then '%' else c

theorem cleanTopic_cons {first : Char} (apart : first ≠ '/') (rest : Text) :
    cleanTopic (first :: rest) = first :: rest := by
  unfold cleanTopic
  split
  · rename_i same
    cases same
    exact absurd rfl apart
  · rfl

theorem TopicChunks.cleanTopic {chunks : List Text} (topic : TopicChunks chunks)
    {topicName : Text} (names : Names chunks topicName) :
    cleanTopic topicName = ['/'].intercalate chunks := by
  rcases names with rfl | rfl
  · cases chunks with
    | nil => exact absurd rfl topic.some_chunk
    | cons chunk chunks =>
        cases chunk with
        | nil => exact absurd rfl (topic.filled [] List.mem_cons_self)
        | cons first rest =>
            have apart : first ≠ '/' := by
              intro same
              exact topic.separator (first :: rest) List.mem_cons_self (same ▸ List.mem_cons_self)
            cases chunks with
            | nil =>
                rw [List.intercalate_singleton]
                exact cleanTopic_cons apart rest
            | cons next others =>
                rw [List.intercalate_cons_cons, List.append_assoc]
                exact cleanTopic_cons apart _
  · rfl

def lvChunks (kind : Text) (domainId : BitVec 32) (zid : Bytes)
    (nodeName topicName typeName : Text) : List Text :=
  ["@ros2_lv".toList, decimal domainId, zid.flatMap hexByte, "0".toList, "10".toList, kind,
    "%".toList, "%".toList, nodeName, '%' :: cleanTopic topicName, typeName,
    zenbeddedGetRihsHash typeName, "::,7:,:,:,,".toList]

/-- The key before it is cut to the size of its buffer. -/
def lvText (kind : Text) (domainId : BitVec 32) (zid : Bytes)
    (nodeName topicName typeName : Text) : Text :=
  ['/'].intercalate (lvChunks kind domainId zid nodeName topicName typeName)

theorem endpointLvKeyexpr_fits {kind : Text} {domainId : BitVec 32} {zid : Bytes}
    {nodeName topicName typeName : Text}
    (fits : (lvText kind domainId zid nodeName topicName typeName).length < keyexprMaxLen) :
    endpointLvKeyexpr kind domainId zid nodeName topicName (some typeName) =
      lvText kind domainId zid nodeName topicName typeName := by
  have whole : endpointLvKeyexpr kind domainId zid nodeName topicName (some typeName) =
      snprintf keyexprMaxLen (lvText kind domainId zid nodeName topicName typeName) := by
    delta endpointLvKeyexpr lvText lvChunks
    simp
  rw [whole, snprintf, List.take_of_length_le (Nat.le_sub_one_of_lt fits)]

theorem separator_not_mem_decimal (value : BitVec 32) : '/' ∉ decimal value := by
  intro inside
  have digit := Nat.isDigit_of_mem_toDigits (by decide) (by decide) inside
  contradiction

theorem separator_ne_digitChar : ∀ digit < 16, '/' ≠ Nat.digitChar digit := by decide

theorem separator_not_mem_hex (zid : Bytes) : '/' ∉ zid.flatMap hexByte := by
  intro inside
  obtain ⟨byte, _, digit⟩ := List.mem_flatMap.mp inside
  have bounded : byte.toNat < 256 := byte.toNat_lt
  rcases List.mem_cons.mp digit with high | low
  · exact separator_ne_digitChar _ (by omega) high
  · exact separator_ne_digitChar _ (by omega) (List.mem_singleton.mp low)

theorem rihsHash_mem (typeName : Text) :
    zenbeddedGetRihsHash typeName ∈ "UNKNOWN_HASH".toList :: rihsLedger.map Prod.snd := by
  rw [zenbeddedGetRihsHash]
  cases found : rihsLedger.lookup typeName with
  | none => exact List.mem_cons_self
  | some hash =>
      obtain ⟨front, back, ledger, -⟩ := List.lookup_eq_some_iff.mp found
      rw [ledger]
      simp

theorem rihsHash_wellFormed (typeName : Text) :
    '/' ∉ zenbeddedGetRihsHash typeName ∧ (zenbeddedGetRihsHash typeName).length ≤ 71 := by
  have all : ∀ hash ∈ "UNKNOWN_HASH".toList :: rihsLedger.map Prod.snd,
      '/' ∉ hash ∧ hash.length ≤ 71 := by
    simp [rihsLedger]
  exact all _ (rihsHash_mem typeName)

/-- What a peer finds in the key, the topic apart. -/
theorem lvText_splitOn {kind : Text} (kindClean : '/' ∉ kind) (domainId : BitVec 32) (zid : Bytes)
    {nodeName topicName typeName : Text} (nodeClean : '/' ∉ nodeName) (typeClean : '/' ∉ typeName) :
    (lvText kind domainId zid nodeName topicName typeName).splitOn '/' =
      ["@ros2_lv".toList, decimal domainId, zid.flatMap hexByte, "0".toList, "10".toList, kind,
          "%".toList, "%".toList, nodeName] ++
        (('%' :: cleanTopic topicName).splitOn '/' ++
          [typeName, zenbeddedGetRihsHash typeName, "::,7:,:,:,,".toList]) := by
  have first : '/' ∉ "@ros2_lv".toList := by simp
  have zero : '/' ∉ "0".toList := by simp
  have ten : '/' ∉ "10".toList := by simp
  have percent : '/' ∉ "%".toList := by simp
  have qos : '/' ∉ "::,7:,:,:,,".toList := by simp
  have chunks := splitOn_intercalate_chunks '/'
    (lvChunks kind domainId zid nodeName topicName typeName) (List.cons_ne_nil _ _)
  rw [lvText, chunks]
  simp only [lvChunks, List.flatMap_cons, List.flatMap_nil, List.splitOn_eq_singleton first,
    List.splitOn_eq_singleton (separator_not_mem_decimal domainId),
    List.splitOn_eq_singleton (separator_not_mem_hex zid), List.splitOn_eq_singleton zero,
    List.splitOn_eq_singleton ten, List.splitOn_eq_singleton kindClean,
    List.splitOn_eq_singleton percent, List.splitOn_eq_singleton nodeClean,
    List.splitOn_eq_singleton typeClean,
    List.splitOn_eq_singleton (rihsHash_wellFormed typeName).1, List.splitOn_eq_singleton qos,
    List.cons_append, List.nil_append, List.append_nil]

/-- What a key says of its endpoint. -/
structure LvEndpoint where
  domainId : Nat
  kind : Text
  nodeName : Text
  topicName : Text
  typeName : Text
  typeHash : Text
deriving Repr, DecidableEq

def decodeLvKeyexpr (key : Text) : Option LvEndpoint :=
  match key.splitOn '/' with
  | [_, domainId, _, _, _, kind, _, _, nodeName, topicName, typeName, typeHash, _] =>
      some {
        domainId := Nat.ofDigitChars 10 domainId 0
        kind
        nodeName
        topicName := topicName.map fun c => if c = '%' then '/' else c
        typeName
        typeHash }
  | _ => none

/-- The key has the chunks of the liveliness grammar, and they give the endpoint back. -/
structure DecodesBack (kind : Text) (domainId : BitVec 32) (nodeName topicName typeName key : Text) :
    Prop where
  count : (key.splitOn '/').length = 13
  node : (key.splitOn '/')[8]? = some nodeName
  topic : (key.splitOn '/')[9]? = some (mangled topicName)
  type : (key.splitOn '/')[10]? = some typeName
  hash : (key.splitOn '/')[11]? = some (zenbeddedGetRihsHash typeName)
  endpoint : decodeLvKeyexpr key = some {
    domainId := domainId.toNat
    kind
    nodeName
    topicName := '/' :: cleanTopic topicName
    typeName
    typeHash := zenbeddedGetRihsHash typeName }

theorem mangled_single {topicName : Text} (clean : '/' ∉ cleanTopic topicName) :
    mangled topicName = '%' :: cleanTopic topicName := by
  have same : (cleanTopic topicName).map (fun c => if c = '/' then '%' else c) =
      cleanTopic topicName := by
    refine (List.map_congr_left fun c inside => ?_).trans (List.map_id' _)
    have apart : c ≠ '/' := fun here => clean (here ▸ inside)
    exact if_neg apart
  rw [mangled, same]

theorem unescaped {topicName : Text} (clean : '%' ∉ topicName) :
    (('%' :: topicName).map fun c => if c = '%' then '/' else c) = '/' :: topicName := by
  rw [List.map_cons, if_pos rfl]
  congr 1
  refine (List.map_congr_left fun c inside => ?_).trans (List.map_id' _)
  have apart : c ≠ '%' := fun here => clean (here ▸ inside)
  exact if_neg apart

/-- The key of a topic with a single chunk, and of no other, can be decoded. -/
theorem lvText_decodesBack_iff {kind : Text} (kindClean : '/' ∉ kind) (domainId : BitVec 32)
    (zid : Bytes) {nodeName topicName typeName : Text} (nodeClean : '/' ∉ nodeName)
    (typeClean : '/' ∉ typeName) {chunks : List Text} (topic : TopicChunks chunks)
    (names : Names chunks topicName) :
    DecodesBack kind domainId nodeName topicName typeName
        (lvText kind domainId zid nodeName topicName typeName) ↔ chunks.length = 1 := by
  have split : (lvText kind domainId zid nodeName topicName typeName).splitOn '/' = _ :=
    lvText_splitOn kindClean domainId zid nodeClean typeClean
  have clean := topic.cleanTopic names
  have parts : ((cleanTopic topicName).splitOn '/') = chunks := by
    rw [clean]
    exact List.splitOn_intercalate '/' topic.separator topic.some_chunk
  constructor
  · intro decodes
    have count := decodes.count
    rw [split] at count
    simp only [List.length_append, splitOn_cons_length (show '%' ≠ '/' by decide), parts,
      List.length_cons, List.length_nil] at count
    omega
  · intro single
    obtain ⟨chunk, rfl⟩ := List.length_eq_one_iff.mp single
    rw [List.intercalate_singleton] at clean
    have separator := topic.separator chunk List.mem_cons_self
    have escape := topic.escape chunk List.mem_cons_self
    have whole : ('%' :: cleanTopic topicName).splitOn '/' = ['%' :: chunk] := by
      rw [clean]
      exact List.splitOn_eq_singleton (by simpa using separator)
    rw [whole] at split
    refine ⟨?_, ?_, ?_, ?_, ?_, ?_⟩
    · rw [split]
      rfl
    · rw [split]
      rfl
    · rw [split, mangled_single (clean ▸ separator), clean]
      rfl
    · rw [split]
      rfl
    · rw [split]
      rfl
    · have domain : Nat.ofDigitChars 10 (decimal domainId) 0 = domainId.toNat :=
        Nat.ofDigitChars_ten_toDigits
      rw [decodeLvKeyexpr, split, clean]
      simp only [List.cons_append, List.nil_append, domain, unescaped escape]

variable {Callback : Type}

theorem declarePublisher_lvKeyexpr {topicName : Text} {typeName : Option Text} {accepted : Bool}
    {gid : Bytes} {transport after : ZenohTransport Callback} {index : Endpoint}
    (run : zenbeddedTransportDeclarePublisher .tier1 topicName typeName accepted gid transport =
      (some index, after)) :
    (after.pubPool index).lvKeyexpr = endpointLvKeyexpr "MP".toList transport.currentDomainId
      transport.zid transport.currentNodeName topicName typeName := by
  unfold zenbeddedTransportDeclarePublisher at run
  split at run
  · split at run
    · cases run
    · cases accepted with
      | false => cases run
      | true =>
          cases run
          simp [ZenohTransport.setPub]
  · cases run

theorem declareSubscriber_lvKeyexpr {topicName : Text} {typeName : Option Text}
    {callback : Callback} {accepted : Bool} {transport after : ZenohTransport Callback}
    {index : Endpoint}
    (run : zenbeddedTransportDeclareSubscriber .tier1 topicName typeName callback accepted
      transport = (some index, after)) :
    (after.subPool index).lvKeyexpr = endpointLvKeyexpr "MS".toList transport.currentDomainId
      transport.zid transport.currentNodeName topicName typeName := by
  unfold zenbeddedTransportDeclareSubscriber at run
  split at run
  · split at run
    · cases run
    · cases accepted with
      | false => cases run
      | true =>
          cases run
          simp [ZenohTransport.setSub]
  · cases run

/-- Publishers and subscribers can be decoded exactly where the topic is a single chunk. -/
theorem lvKeyexprs_decodeBack_iff (transport : ZenohTransport Callback) {chunks : List Text}
    (topic : TopicChunks chunks) {topicName : Text} (names : Names chunks topicName)
    (nodeClean : '/' ∉ transport.currentNodeName) {typeName : Text} (typeClean : '/' ∉ typeName)
    (fits : ∀ kind ∈ ["MP".toList, "MS".toList],
      (lvText kind transport.currentDomainId transport.zid transport.currentNodeName topicName
        typeName).length < keyexprMaxLen) :
    (∀ (accepted : Bool) (gid : Bytes) (index : Endpoint) (after : ZenohTransport Callback),
      zenbeddedTransportDeclarePublisher .tier1 topicName (some typeName) accepted gid transport =
          (some index, after) →
        (DecodesBack "MP".toList transport.currentDomainId transport.currentNodeName topicName
          typeName (after.pubPool index).lvKeyexpr ↔ chunks.length = 1)) ∧
    ∀ (accepted : Bool) (callback : Callback) (index : Endpoint) (after : ZenohTransport Callback),
      zenbeddedTransportDeclareSubscriber .tier1 topicName (some typeName) callback accepted
          transport = (some index, after) →
        (DecodesBack "MS".toList transport.currentDomainId transport.currentNodeName topicName
          typeName (after.subPool index).lvKeyexpr ↔ chunks.length = 1) := by
  constructor
  · intro accepted gid index after run
    rw [declarePublisher_lvKeyexpr run, endpointLvKeyexpr_fits (fits _ List.mem_cons_self)]
    exact lvText_decodesBack_iff (by simp) _ _ nodeClean typeClean topic names
  · intro accepted callback index after run
    rw [declareSubscriber_lvKeyexpr run,
      endpointLvKeyexpr_fits (fits _ (List.mem_cons_of_mem _ List.mem_cons_self))]
    exact lvText_decodesBack_iff (by simp) _ _ nodeClean typeClean topic names

def openTransport : ZenohTransport Unit :=
  (zenbeddedTransportInit .tier1 0 ['n'] (some (List.replicate 16 0)) ZenohTransport.start).2

def jointStateType : Text := "sensor_msgs::msg::dds_::JointState_".toList

theorem hex_length (zid : Bytes) : (zid.flatMap hexByte).length = 2 * zid.length := by
  induction zid with
  | nil => rfl
  | cons byte zid inductionHypothesis =>
      rw [List.flatMap_cons, List.length_append, inductionHypothesis, List.length_cons, hexByte,
        List.length_cons, List.length_singleton]
      omega

theorem lvText_length (kind : Text) (domainId : BitVec 32) (zid : Bytes)
    (nodeName topicName typeName : Text) :
    (lvText kind domainId zid nodeName topicName typeName).length =
      37 + (decimal domainId).length + 2 * zid.length + kind.length + nodeName.length +
        (cleanTopic topicName).length + typeName.length +
          (zenbeddedGetRihsHash typeName).length := by
  delta lvText lvChunks
  simp only [List.intercalate_cons_cons, List.intercalate_singleton, List.length_append,
    List.length_cons, List.length_nil, hex_length]
  simp
  omega

theorem openTransport_fits {topicName : Text} (short : (cleanTopic topicName).length ≤ 256) :
    ∀ kind ∈ ["MP".toList, "MS".toList],
      (lvText kind openTransport.currentDomainId openTransport.zid openTransport.currentNodeName
        topicName jointStateType).length < keyexprMaxLen := by
  intro kind member
  have two : kind.length = 2 := by
    rcases List.mem_cons.mp member with same | last
    · rw [same]
      simp
    · rw [List.mem_singleton.mp last]
      simp
  have typeLength : jointStateType.length = 35 := by
    delta jointStateType
    simp
  have hash := (rihsHash_wellFormed jointStateType).2
  have domain : (decimal openTransport.currentDomainId).length = 1 := rfl
  have zid : openTransport.zid.length = 16 := rfl
  have node : openTransport.currentNodeName.length = 1 := rfl
  rw [lvText_length, keyexprMaxLen]
  omega

theorem jointStateType_clean : '/' ∉ jointStateType := by
  delta jointStateType
  simp

theorem openTransport_node : '/' ∉ openTransport.currentNodeName := by decide

theorem openTransport_declares (topicName typeName : Text) :
    ∃ index after, zenbeddedTransportDeclarePublisher .tier1 topicName (some typeName) true []
      openTransport = (some index, after) := by
  have opened : openTransport.isInitialized = true := rfl
  have free : PubSlotFree openTransport := ⟨⟨0, by decide⟩, rfl⟩
  obtain ⟨index, after, run, -⟩ :=
    declarePublisher_succeeds opened free .tier1 topicName (some typeName) []
  exact ⟨index, after, run⟩

def arm : Text := ['a', 'r', 'm']

def state : Text := ['s', 't', 'a', 't', 'e']

theorem topicChunks_state : TopicChunks [state] := by
  refine ⟨by simp, ?_, ?_, ?_⟩
  · simp [state]
  · simp [state]
  · simp [state]

theorem topicChunks_arm : TopicChunks [arm, state] := by
  refine ⟨by simp, ?_, ?_, ?_⟩
  · simp [arm, state]
  · simp [arm, state]
  · simp [arm, state]

/-- The topic `/state`. -/
theorem lvKeyexprs_decodeBack_iff_state :
    ∃ (index : Endpoint) (after : ZenohTransport Unit),
      zenbeddedTransportDeclarePublisher .tier1 ('/' :: state) (some jointStateType) true []
          openTransport = (some index, after) ∧
        DecodesBack "MP".toList 0 ['n'] ('/' :: state) jointStateType
          (after.pubPool index).lvKeyexpr := by
  have names : Names [state] ('/' :: state) := Or.inr rfl
  obtain ⟨publishers, _⟩ := lvKeyexprs_decodeBack_iff openTransport topicChunks_state names
    openTransport_node jointStateType_clean (openTransport_fits (by decide))
  obtain ⟨index, after, run⟩ := openTransport_declares ('/' :: state) jointStateType
  exact ⟨index, after, run, (publishers true [] index after run).mpr rfl⟩

def armState : Text := ['a', 'r', 'm', '/', 's', 't', 'a', 't', 'e']

theorem armState_names : Names [arm, state] armState := Or.inl rfl

/-- The topic `arm/state`. -/
theorem lvKeyexprs_not_decodedBack :
    ¬ ∀ (transport after : ZenohTransport Unit) (chunks : List Text) (topicName typeName : Text)
        (index : Endpoint),
      TopicChunks chunks → Names chunks topicName → '/' ∉ transport.currentNodeName →
      '/' ∉ typeName →
      (∀ kind ∈ ["MP".toList, "MS".toList],
        (lvText kind transport.currentDomainId transport.zid transport.currentNodeName topicName
          typeName).length < keyexprMaxLen) →
      zenbeddedTransportDeclarePublisher .tier1 topicName (some typeName) true [] transport =
        (some index, after) →
      DecodesBack "MP".toList transport.currentDomainId transport.currentNodeName topicName typeName
        (after.pubPool index).lvKeyexpr := by
  intro decodes
  have fits := openTransport_fits (show (cleanTopic armState).length ≤ 256 by decide)
  obtain ⟨index, after, run⟩ := openTransport_declares armState jointStateType
  have decoded := decodes openTransport after [arm, state] armState jointStateType index
    topicChunks_arm armState_names openTransport_node jointStateType_clean fits run
  rw [declarePublisher_lvKeyexpr run, endpointLvKeyexpr_fits (fits _ List.mem_cons_self)] at decoded
  have single := (lvText_decodesBack_iff (by simp) _ _ openTransport_node jointStateType_clean
    topicChunks_arm armState_names).mp decoded
  exact absurd single (by decide)

end Zenbedded.Transport
