import IdealNetwork.Lib.ScaleDecode
import IdealNetwork.Types

/-!
# Reading the network's types

The types that cross chains, in the reading direction. A record is read as
the tuple of its fields, in the order in which they are written, and is read
back if its fields are (`ReadBack.of_fields`).

Of an XCM location, only the frame is this repository's business: how many
junctions there are. The codec of a junction comes from elsewhere and is a
parameter, an instance of `Decode Junction`. So a record with a location in it
is read back if the junctions of the location are.

The balances of a quote are `u128`, and are read back if they fit.
-/

set_option autoImplicit false

namespace IdealNetwork

open Scale

/-! ## Vectors and enumerations -/

instance {bound : ℕ} : Decode (BoundedVec UInt8 bound) where
  decode input := do
    let (bytes, rest) ← (decode input : Option (Bytes × Bytes))
    if h : bytes.length ≤ bound then some (⟨bytes, h⟩, rest) else none

theorem readBack_boundedVec {bound : ℕ} (hbound : bound < 2 ^ 32) (v : BoundedVec UInt8 bound) :
    ReadBack v := by
  intro rest
  have hbytes := readBack_bytes (v.length_le.trans_lt hbound) rest
  show ((decode (encode (α := Bytes) v.toList ++ rest) : Option (Bytes × Bytes)).bind fun p =>
    if h : p.1.length ≤ bound then some ((⟨p.1, h⟩ : BoundedVec UInt8 bound), p.2) else none) = _
  rw [hbytes, Option.bind_some, dif_pos v.length_le]

instance : RoundTrip Metadata where
  decode_encode := readBack_boundedVec (by decide)

instance : RoundTrip CallData where
  decode_encode := readBack_boundedVec (by decide)

instance : Decode OriginKind where
  decode
    | 0 :: rest => some (.native, rest)
    | 1 :: rest => some (.sovereignAccount, rest)
    | 2 :: rest => some (.superuser, rest)
    | 3 :: rest => some (.xcm, rest)
    | _ => none

instance : RoundTrip OriginKind where
  decode_encode kind rest := by cases kind <;> rfl

instance : Decode SubscriptionState where
  decode
    | 0 :: rest => some (.active, rest)
    | 1 :: rest => some (.paused, rest)
    | 2 :: rest => some (.finalized, rest)
    | _ => none

instance : RoundTrip SubscriptionState where
  decode_encode state rest := by cases state <;> rfl

/-! ## Locations -/

instance [Decode Junction] : Decode Location where
  decode input := do
    let (parents, input) ← (decode input : Option (UInt8 × Bytes))
    let (count, input) ← (decode input : Option (UInt8 × Bytes))
    let (junctions, input) ← readItems Junction count.toNat input
    if h : junctions.length ≤ 8 then some (⟨parents, ⟨junctions, h⟩⟩, input) else none

/-- The codec knows every junction of the location. -/
def Location.Known [Decode Junction] (location : Location) : Prop :=
  ∀ junction ∈ location.interior.toList, ReadBack junction

theorem Location.Known.readBack [Decode Junction] {location : Location} (h : location.Known) :
    ReadBack location := by
  intro rest
  have hcount : (UInt8.ofNat location.interior.toList.length).toNat =
      location.interior.toList.length :=
    UInt8.toNat_ofNat_of_lt' (location.interior.length_le.trans_lt (by decide))
  show ((decode (encode location.parents ++
      UInt8.ofNat location.interior.toList.length :: location.interior.toList.flatMap encode ++
        rest) : Option (UInt8 × Bytes)).bind
    fun p => (decode p.2 : Option (UInt8 × Bytes)).bind
    fun q => (readItems Junction q.1.toNat q.2).bind
    fun r => if h : r.1.length ≤ 8 then some (Location.mk p.1 ⟨r.1, h⟩, r.2) else none) = _
  rw [List.append_assoc, decode_encode, Option.bind_some]
  show ((readItems Junction (UInt8.ofNat location.interior.toList.length).toNat
      (location.interior.toList.flatMap encode ++ rest)).bind
    fun r => if h : r.1.length ≤ 8 then
      some (Location.mk location.parents ⟨r.1, h⟩, r.2) else none) = _
  rw [hcount, readItems_append h, Option.bind_some, dif_pos location.interior.length_le]

/-- As much of the codec as siblings need: parachains, and accounts that name
no network. -/
@[reducible]
def siblingCodec : Decode Junction where
  decode
    | 0 :: input => (readCompact 32 input).map fun p => (.parachain (UInt32.ofNat p.1), p.2)
    | 1 :: 0 :: input => (decode input).map fun p => (.accountId32 none p.1, p.2)
    | _ => none

theorem readBack_parachain (id : UInt32) : @ReadBack _ _ siblingCodec (Junction.parachain id) := by
  intro rest
  show (readCompact 32 (compact id.toNat ++ rest)).map _ = _
  rw [readCompact_compact (by decide) id.toNat_lt, Option.map_some, UInt32.ofNat_toNat]

theorem known_sibling (id : UInt32) : @Location.Known siblingCodec (.sibling id) := by
  intro junction hmem
  rw [List.mem_singleton.mp hmem]
  exact readBack_parachain id

/-! ## Records -/

/-- The fields of a pulse, as they are written. -/
def RuntimePulse.fields (p : RuntimePulse) : OpaqueSignature × RoundNumber × RoundNumber :=
  (p.signature, p.start, p.end)

instance : Decode RuntimePulse where
  decode := decodeFields fun f : OpaqueSignature × RoundNumber × RoundNumber =>
    ⟨f.1, f.2.1, f.2.2⟩

instance : RoundTrip RuntimePulse where
  decode_encode p := by
    refine ReadBack.of_fields p.fields rfl ?_ rfl (readBack _)
    simp only [encode, RuntimePulse.fields, List.append_assoc]

/-- The fields of a quote, with its balances as `u128`. -/
def Quote.fields (q : Quote) : RequestReference × FixedWidth 16 × FixedWidth 16 :=
  (q.reqRef, ⟨q.fees⟩, ⟨q.deposit⟩)

instance : Decode Quote where
  decode := decodeFields fun f : RequestReference × FixedWidth 16 × FixedWidth 16 =>
    ⟨f.1, f.2.1.value, f.2.2.value⟩

/-- The balances of the quote fit a `u128`. -/
def Quote.Fits (q : Quote) : Prop := q.fees < 2 ^ 128 ∧ q.deposit < 2 ^ 128

theorem Quote.Fits.readBack {q : Quote} (h : q.Fits) : ReadBack q := by
  refine ReadBack.of_fields q.fields rfl ?_ rfl ?_
  · simp only [encode, Quote.fields, List.append_assoc]
  · exact (Scale.readBack _).pair ((readBack_fixedWidth h.1).pair (readBack_fixedWidth h.2))

section Generic

variable {AccountId BlockNumber Credits Metadata SubscriptionId CallData Params PulseIndex : Type}
variable {Sub : Type}

def UpdateSubParams.fields (p : UpdateSubParams SubscriptionId Credits BlockNumber Metadata) :
    SubscriptionId × Option Credits × Option BlockNumber × Option (Option Metadata) :=
  (p.subId, p.credits, p.frequency, p.metadata)

def CreateSubParams.fields
    (p : CreateSubParams Credits BlockNumber Metadata SubscriptionId CallData) :
    Credits × Location × CallData × OriginKind × BlockNumber × Option Metadata ×
      Option SubscriptionId :=
  (p.credits, p.target, p.call, p.originKind, p.frequency, p.metadata, p.subId)

def QuoteRequest.fields (r : QuoteRequest Params PulseIndex) :
    RequestReference × Params × PulseIndex :=
  (r.reqRef, r.createSubParams, r.lifetimePulses)

def QuoteSubParams.fields (p : QuoteSubParams Params PulseIndex CallData) :
    QuoteRequest Params PulseIndex × CallData × OriginKind :=
  (p.quoteRequest, p.call, p.originKind)

def SubInfoRequest.fields (r : SubInfoRequest SubscriptionId CallData) :
    RequestReference × SubscriptionId × CallData × OriginKind :=
  (r.reqRef, r.subId, r.call, r.originKind)

def SubInfoResponse.fields (r : SubInfoResponse Sub) : RequestReference × Sub := (r.reqRef, r.sub)

def SubscriptionDetails.fields (d : SubscriptionDetails AccountId CallData) :
    AccountId × Location × CallData × OriginKind :=
  (d.subscriber, d.target, d.call, d.originKind)

def Subscription.fields
    (s : Subscription AccountId BlockNumber Credits Metadata SubscriptionId CallData) :
    SubscriptionId × SubscriptionDetails AccountId CallData × Credits × SubscriptionState ×
      BlockNumber × BlockNumber × Credits × BlockNumber × Option Metadata × Option BlockNumber :=
  (s.id, s.details, s.creditsLeft, s.state, s.createdAt, s.updatedAt, s.credits, s.frequency,
    s.metadata, s.lastDelivered)

section Decoders

variable [Decode AccountId] [Decode BlockNumber] [Decode Credits] [Decode Metadata]
variable [Decode SubscriptionId] [Decode CallData] [Decode Params] [Decode PulseIndex] [Decode Sub]
variable [Decode Junction]

instance : Decode (UpdateSubParams SubscriptionId Credits BlockNumber Metadata) where
  decode := decodeFields fun f : SubscriptionId × Option Credits × Option BlockNumber ×
    Option (Option Metadata) => ⟨f.1, f.2.1, f.2.2.1, f.2.2.2⟩

instance : Decode (CreateSubParams Credits BlockNumber Metadata SubscriptionId CallData) where
  decode := decodeFields fun f : Credits × Location × CallData × OriginKind × BlockNumber ×
      Option Metadata × Option SubscriptionId =>
    ⟨f.1, f.2.1, f.2.2.1, f.2.2.2.1, f.2.2.2.2.1, f.2.2.2.2.2.1, f.2.2.2.2.2.2⟩

instance : Decode (QuoteRequest Params PulseIndex) where
  decode := decodeFields fun f : RequestReference × Params × PulseIndex => ⟨f.1, f.2.1, f.2.2⟩

instance : Decode (QuoteSubParams Params PulseIndex CallData) where
  decode := decodeFields fun f : QuoteRequest Params PulseIndex × CallData × OriginKind =>
    ⟨f.1, f.2.1, f.2.2⟩

instance : Decode (SubInfoRequest SubscriptionId CallData) where
  decode := decodeFields fun f : RequestReference × SubscriptionId × CallData × OriginKind =>
    ⟨f.1, f.2.1, f.2.2.1, f.2.2.2⟩

instance : Decode (SubInfoResponse Sub) where
  decode := decodeFields fun f : RequestReference × Sub => ⟨f.1, f.2⟩

instance : Decode (SubscriptionDetails AccountId CallData) where
  decode := decodeFields fun f : AccountId × Location × CallData × OriginKind =>
    ⟨f.1, f.2.1, f.2.2.1, f.2.2.2⟩

instance :
    Decode (Subscription AccountId BlockNumber Credits Metadata SubscriptionId CallData) where
  decode := decodeFields fun f : SubscriptionId × SubscriptionDetails AccountId CallData ×
      Credits × SubscriptionState × BlockNumber × BlockNumber × Credits × BlockNumber ×
      Option Metadata × Option BlockNumber =>
    ⟨f.1, f.2.1, f.2.2.1, f.2.2.2.1, f.2.2.2.2.1, f.2.2.2.2.2.1, f.2.2.2.2.2.2.1,
      f.2.2.2.2.2.2.2.1, f.2.2.2.2.2.2.2.2.1, f.2.2.2.2.2.2.2.2.2⟩

end Decoders

variable [Encode AccountId] [Encode BlockNumber] [Encode Credits] [Encode Metadata]
variable [Encode SubscriptionId] [Encode CallData] [Encode Params] [Encode PulseIndex] [Encode Sub]
variable [Decode AccountId] [Decode BlockNumber] [Decode Credits] [Decode Metadata]
variable [Decode SubscriptionId] [Decode CallData] [Decode Params] [Decode PulseIndex] [Decode Sub]
variable [RoundTrip AccountId] [RoundTrip BlockNumber] [RoundTrip Credits] [RoundTrip Metadata]
variable [RoundTrip SubscriptionId] [RoundTrip CallData] [RoundTrip PulseIndex]

instance : RoundTrip (UpdateSubParams SubscriptionId Credits BlockNumber Metadata) where
  decode_encode p := by
    refine ReadBack.of_fields p.fields rfl ?_ rfl (readBack _)
    simp only [encode, UpdateSubParams.fields, List.append_assoc]

instance : RoundTrip (SubInfoRequest SubscriptionId CallData) where
  decode_encode r := by
    refine ReadBack.of_fields r.fields rfl ?_ rfl (readBack _)
    simp only [encode, SubInfoRequest.fields, List.append_assoc]

/-! Records with a location in them. -/

variable [Decode Junction]

theorem CreateSubParams.readBack
    {p : CreateSubParams Credits BlockNumber Metadata SubscriptionId CallData}
    (h : p.target.Known) : ReadBack p := by
  refine ReadBack.of_fields p.fields rfl ?_ rfl ?_
  · simp only [encode, CreateSubParams.fields, List.append_assoc]
  · exact (Scale.readBack _).pair (h.readBack.pair (Scale.readBack _))

omit [Decode Junction] in
theorem QuoteRequest.readBack {r : QuoteRequest Params PulseIndex}
    (h : ReadBack r.createSubParams) : ReadBack r := by
  refine ReadBack.of_fields r.fields rfl ?_ rfl ?_
  · simp only [encode, QuoteRequest.fields, List.append_assoc]
  · exact (Scale.readBack _).pair (h.pair (Scale.readBack _))

omit [Decode Junction] in
theorem QuoteSubParams.readBack {p : QuoteSubParams Params PulseIndex CallData}
    (h : ReadBack p.quoteRequest.createSubParams) : ReadBack p := by
  refine ReadBack.of_fields p.fields rfl ?_ rfl ?_
  · simp only [encode, QuoteSubParams.fields, List.append_assoc]
  · exact (QuoteRequest.readBack h).pair (Scale.readBack _)

theorem SubscriptionDetails.readBack {d : SubscriptionDetails AccountId CallData}
    (h : d.target.Known) : ReadBack d := by
  refine ReadBack.of_fields d.fields rfl ?_ rfl ?_
  · simp only [encode, SubscriptionDetails.fields, List.append_assoc]
  · exact (Scale.readBack _).pair (h.readBack.pair (Scale.readBack _))

theorem Subscription.readBack
    {s : Subscription AccountId BlockNumber Credits Metadata SubscriptionId CallData}
    (h : s.details.target.Known) : ReadBack s := by
  refine ReadBack.of_fields s.fields rfl ?_ rfl ?_
  · simp only [encode, Subscription.fields, List.append_assoc]
  · exact (Scale.readBack _).pair ((SubscriptionDetails.readBack h).pair (Scale.readBack _))

omit [Decode Junction] in
theorem SubInfoResponse.readBack {r : SubInfoResponse Sub} (h : ReadBack r.sub) : ReadBack r := by
  refine ReadBack.of_fields r.fields rfl ?_ rfl ((Scale.readBack _).pair h)
  simp only [encode, SubInfoResponse.fields]

end Generic

end IdealNetwork
