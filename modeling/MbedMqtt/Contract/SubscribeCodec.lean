import MbedMqtt.Packet.SubscribeServer

namespace MbedMqtt

theorem foldl_add {α : Type} (size : α → Nat) (xs : List α) (n : Nat) :
    xs.foldl (fun len x => len + size x) n = n + (xs.map size).sum := by
  induction xs generalizing n with
  | nil => rfl
  | cons x xs ih =>
    rw [List.foldl_cons, ih, List.map_cons, List.sum_cons]
    omega

theorem length_flatMap_eq {α : Type} {enc : α → Bytes} {size : α → Nat} {xs : List α}
    (h : ∀ x ∈ xs, (enc x).length = size x) : (xs.flatMap enc).length = (xs.map size).sum := by
  rw [List.length_flatMap]
  exact congrArg List.sum (List.map_congr_left h)

def Represented (topicFilter : MQTTString) : Prop :=
  topicFilter.Single ∧ topicFilter.text.length ≤ 65535

def subscribeBody (packetid : Nat) (requests : List (MQTTString × Nat)) : Bytes :=
  writeInt packetid ++ requests.flatMap subscription

def unsubscribeBody (packetid : Nat) (topicFilters : List MQTTString) : Bytes :=
  writeInt packetid ++ topicFilters.flatMap fun t => writeCString t.text

theorem subscribeLength_eq (topicFilters : List MQTTString) :
    subscribeLength topicFilters = 2 + (topicFilters.map fun t => 2 + mqttstrlen t + 1).sum :=
  foldl_add (fun t => 2 + mqttstrlen t + 1) topicFilters 2

theorem unsubscribeLength_eq (topicFilters : List MQTTString) :
    unsubscribeLength topicFilters = 2 + (topicFilters.map fun t => 2 + mqttstrlen t).sum :=
  foldl_add (fun t => 2 + mqttstrlen t) topicFilters 2

theorem subscribeBody_length (packetid : Nat) {requests : List (MQTTString × Nat)}
    (hs : ∀ r ∈ requests, r.1.Single) :
    (subscribeBody packetid requests).length = subscribeLength (requests.map Prod.fst) := by
  rw [subscribeBody, List.length_append, writeInt_length, subscribeLength_eq, List.map_map]
  refine congrArg (2 + ·) (length_flatMap_eq ?_)
  intro r hr
  rw [subscription_length, Function.comp_apply, (hs r hr).strlen]

theorem unsubscribeBody_length (packetid : Nat) {topicFilters : List MQTTString}
    (hs : ∀ t ∈ topicFilters, t.Single) :
    (unsubscribeBody packetid topicFilters).length = unsubscribeLength topicFilters := by
  rw [unsubscribeBody, List.length_append, writeInt_length, unsubscribeLength_eq]
  refine congrArg (2 + ·) (length_flatMap_eq ?_)
  intro t ht
  rw [writeCString_length, (hs t ht).strlen]

theorem serializeSubscribe_framed (buflen dup packetid : Nat) {requests : List (MQTTString × Nat)}
    (hs : ∀ r ∈ requests, r.1.Single) :
    serializeSubscribe buflen dup packetid (requests.map Prod.fst) (requests.map Prod.snd) =
      if buflen < packetLen (subscribeLength (requests.map Prod.fst)) then
        (MQTTPACKET_BUFFER_TOO_SHORT, [])
      else
        let packet := framed (headerByte SUBSCRIBE dup 1 0) (subscribeBody packetid requests)
        (packet.length, packet) := by
  have hbody : requests.flatMap (fun tq => writeMQTTString tq.1 ++ [UInt8.ofNat tq.2]) =
      requests.flatMap subscription := by
    refine List.flatMap_congr ?_
    intro r hr
    rw [subscription, (hs r hr).write]
  have hzip : (requests.map Prod.fst).zip (requests.map Prod.snd) = requests := by
    rw [← List.unzip_fst, ← List.unzip_snd, List.zip_unzip]
  simp only [serializeSubscribe, hzip, hbody, framed, subscribeBody_length packetid hs]
  simp only [subscribeBody, List.cons_append, List.append_assoc]

theorem serializeUnsubscribe_framed (buflen dup packetid : Nat) {topicFilters : List MQTTString}
    (hs : ∀ t ∈ topicFilters, t.Single) :
    serializeUnsubscribe buflen dup packetid topicFilters =
      if buflen < packetLen (unsubscribeLength topicFilters) then
        (MQTTPACKET_BUFFER_TOO_SHORT, [])
      else
        let packet := framed (headerByte UNSUBSCRIBE dup 1 0) (unsubscribeBody packetid topicFilters)
        (packet.length, packet) := by
  have hbody : topicFilters.flatMap writeMQTTString =
      topicFilters.flatMap fun t => writeCString t.text := by
    refine List.flatMap_congr ?_
    intro t ht
    rw [(hs t ht).write]
  simp only [serializeUnsubscribe, hbody, framed, unsubscribeBody_length packetid hs]
  simp only [unsubscribeBody, List.cons_append, List.append_assoc]

theorem entries_laidAt {α β : Type} {buf : Bytes} {n packetid : Nat} {enc : α → Bytes}
    (read : Nat → Nat → Option (β × Nat)) (out : α → β) {es : List α} (hid : packetid < 65536)
    (hlaid : LaidAt buf (1 + n) (writeInt packetid ++ es.flatMap enc))
    (hread : ∀ e ∈ es, ∀ enddata curdata, LaidAt buf curdata (enc e) →
      curdata + (enc e).length ≤ enddata →
      read enddata curdata = some (out e, curdata + (enc e).length))
    (hpos : ∀ e ∈ es, 0 < (enc e).length) :
    readInt buf (1 + n) = packetid ∧
      readWhile (read (1 + n + (2 + (es.flatMap enc).length))) (1 + n + (2 + (es.flatMap enc).length))
        (2 + (es.flatMap enc).length) (1 + n + 2) [] = (true, es.map out) := by
  obtain ⟨hint, hentries⟩ := LaidAt.append.mp hlaid
  have hcount : es.length ≤ (es.flatMap enc).length := by
    rw [List.length_flatMap]
    have h := List.length_le_sum_of_one_le (es.map fun e => (enc e).length) (by
      intro i hi
      obtain ⟨e, he, rfl⟩ := List.mem_map.mp hi
      exact hpos e he)
    simpa using h
  constructor
  · rw [readInt_laidAt hint, Nat.mod_eq_of_lt hid]
  · exact readWhile_laidAt (fun e he => hread e he _) hpos [] hentries
      (by omega) (by omega)

theorem deserializeSubscribe_framed (charSigned : Bool) (maxcount : Nat) (fields : SubscribeFields)
    {dup packetid : Nat} {requests : List (MQTTString × Nat)} (tail : Bytes) (hdup : dup ≤ 1)
    (hid : packetid < 65536) (hr : ∀ r ∈ requests, Represented r.1 ∧ r.2 ≤ 2)
    (hb : (subscribeBody packetid requests).length < 268435456) :
    deserializeSubscribe charSigned maxcount fields
        (framed (headerByte SUBSCRIBE dup 1 0) (subscribeBody packetid requests) ++ tail) =
      (1,
        { dup := dup
          packetid := packetid
          count := requests.length
          topicFilters := requests.map fun r => .ofLenString r.1.text
          requestedQoSs := requests.map fun r => (r.2 : Int) }) := by
  have hheader := byteAt_framed (headerByte SUBSCRIBE dup 1 0) (subscribeBody packetid requests) tail
  have hdec := decodeBuf_framed (headerByte SUBSCRIBE dup 1 0) (subscribeBody packetid requests)
    tail hb
  have hlaid := laidAt_framed (headerByte SUBSCRIBE dup 1 0) (subscribeBody packetid requests) tail
  have hlen : (subscribeBody packetid requests).length =
      2 + (requests.flatMap subscription).length := by
    rw [subscribeBody, List.length_append, writeInt_length]
  generalize framed (headerByte SUBSCRIBE dup 1 0) (subscribeBody packetid requests) ++ tail = buf
    at hheader hdec hlaid ⊢
  obtain ⟨hpacketid, hloop⟩ := entries_laidAt
    (readSubscription charSigned buf)
    (fun r => (MQTTString.ofLenString r.1.text, (r.2 : Int))) hid hlaid
    (fun r hmem _ _ hat hend =>
      readSubscription_laidAt charSigned (hr r hmem).1.2 (hr r hmem).2 hat hend)
    (fun r _ => by rw [subscription_length]; omega)
  rw [hlen] at hdec hpacketid hloop
  have htype : headerType (headerByte SUBSCRIBE dup 1 0) = SUBSCRIBE := headerType_headerByte ..
  have hflag : headerDup (headerByte SUBSCRIBE dup 1 0) = dup := by
    rw [headerDup_headerByte]
    omega
  simp only [deserializeSubscribe, hheader, htype, hflag, hdec, hloop, hpacketid]
  simp [Function.comp_def]

theorem deserializeUnsubscribe_framed (maxcount : Nat) (fields : UnsubscribeFields)
    {dup packetid : Nat} {topicFilters : List MQTTString} (tail : Bytes) (hdup : dup ≤ 1)
    (hid : packetid < 65536) (hr : ∀ t ∈ topicFilters, Represented t)
    (hb : (unsubscribeBody packetid topicFilters).length < 268435456) :
    deserializeUnsubscribe maxcount fields
        (framed (headerByte UNSUBSCRIBE dup 1 0) (unsubscribeBody packetid topicFilters) ++ tail) =
      (1,
        { dup := dup
          packetid := packetid
          count := topicFilters.length
          topicFilters := topicFilters.map fun t => .ofLenString t.text }) := by
  have hheader := byteAt_framed (headerByte UNSUBSCRIBE dup 1 0)
    (unsubscribeBody packetid topicFilters) tail
  have hdec := decodeBuf_framed (headerByte UNSUBSCRIBE dup 1 0)
    (unsubscribeBody packetid topicFilters) tail hb
  have hlaid := laidAt_framed (headerByte UNSUBSCRIBE dup 1 0)
    (unsubscribeBody packetid topicFilters) tail
  have hlen : (unsubscribeBody packetid topicFilters).length =
      2 + (topicFilters.flatMap fun t => writeCString t.text).length := by
    rw [unsubscribeBody, List.length_append, writeInt_length]
  generalize framed (headerByte UNSUBSCRIBE dup 1 0) (unsubscribeBody packetid topicFilters) ++ tail =
    buf at hheader hdec hlaid ⊢
  obtain ⟨hpacketid, hloop⟩ := entries_laidAt (readTopicFilter buf)
    (fun t => MQTTString.ofLenString t.text) hid hlaid
    (fun t hmem _ _ hat hend => by exact readMQTTLenString_next _ hat (hr t hmem).2 hend)
    (fun t _ => by rw [writeCString_length]; omega)
  rw [hlen] at hdec hpacketid hloop
  have htype : headerType (headerByte UNSUBSCRIBE dup 1 0) = UNSUBSCRIBE := headerType_headerByte ..
  have hflag : headerDup (headerByte UNSUBSCRIBE dup 1 0) = dup := by
    rw [headerDup_headerByte]
    omega
  simp only [deserializeUnsubscribe, hheader, htype, hflag, hdec, hloop, hpacketid]
  simp

theorem deserializeSubscribe_size (charSigned : Bool) (maxcount : Nat) (fields : SubscribeFields)
    (buf : Bytes) (ht : headerType (byteAt buf 0) = SUBSCRIBE) :
    2 + ((deserializeSubscribe charSigned maxcount fields buf).2.topicFilters.map
      fun t => 2 + t.text.length + 1).sum < 268435456 := by
  have hbound := decodeBuf_bound buf 1
  rcases hdec : decodeBuf buf 1 with ⟨rc, mylen⟩
  rw [hdec] at hbound
  obtain ⟨es, hes, hsum⟩ := readWhile_size
    (readSubscription charSigned buf (1 + rc + mylen))
    (fun e => 2 + e.1.text.length + 1) readSubscription_size mylen (1 + rc + 2) []
  rw [List.nil_append] at hes
  simp only [deserializeSubscribe, ht, hdec, hes, ne_eq, not_true_eq_false, if_false, List.map_map,
    Function.comp_def]
  omega

theorem deserializeUnsubscribe_size (maxcount : Nat) (fields : UnsubscribeFields) (buf : Bytes)
    (ht : headerType (byteAt buf 0) = UNSUBSCRIBE) :
    2 + ((deserializeUnsubscribe maxcount fields buf).2.topicFilters.map
      fun t => 2 + t.text.length).sum < 268435456 := by
  have hbound := decodeBuf_bound buf 1
  rcases hdec : decodeBuf buf 1 with ⟨rc, mylen⟩
  rw [hdec] at hbound
  obtain ⟨es, hes, hsum⟩ := readWhile_size (readTopicFilter buf (1 + rc + mylen))
    (fun t => 2 + t.text.length) readTopicFilter_size mylen (1 + rc + 2) []
  rw [List.nil_append] at hes
  simp only [deserializeUnsubscribe, ht, hdec, hes, ne_eq, not_true_eq_false, if_false]
  omega

def SubscribeTrips (charSigned : Bool) (maxcount : Nat) (fields : SubscribeFields) (buf : Bytes)
    (buflen dup packetid : Nat) (requests : List (MQTTString × Nat)) : Prop :=
  let s := serializeSubscribe buflen dup packetid (requests.map Prod.fst) (requests.map Prod.snd)
  let r := deserializeSubscribe charSigned maxcount fields (store buf 0 s.2)
  0 < s.1 → r.1 = 1 ∧ r.2.dup = dup ∧ r.2.packetid = packetid ∧ r.2.count = requests.length ∧
    r.2.topicFilters.map (·.text) = requests.map (·.1.text) ∧
    r.2.requestedQoSs = requests.map fun q => (q.2 : Int)

def UnsubscribeTrips (maxcount : Nat) (fields : UnsubscribeFields) (buf : Bytes)
    (buflen dup packetid : Nat) (topicFilters : List MQTTString) : Prop :=
  let s := serializeUnsubscribe buflen dup packetid topicFilters
  let r := deserializeUnsubscribe maxcount fields (store buf 0 s.2)
  0 < s.1 → r.1 = 1 ∧ r.2.dup = dup ∧ r.2.packetid = packetid ∧ r.2.count = topicFilters.length ∧
    r.2.topicFilters.map (·.text) = topicFilters.map (·.text)

theorem subscribe_trips (charSigned : Bool) (maxcount : Nat) (fields : SubscribeFields) (buf : Bytes)
    (buflen : Nat) {dup packetid : Nat} {requests : List (MQTTString × Nat)} (hdup : dup ≤ 1)
    (hid : packetid < 65536) (hr : ∀ r ∈ requests, Represented r.1 ∧ r.2 ≤ 2)
    (hlen : subscribeLength (requests.map Prod.fst) ≤ 268435455) :
    SubscribeTrips charSigned maxcount fields buf buflen dup packetid requests := by
  have hs : ∀ r ∈ requests, r.1.Single := fun r hmem => (hr r hmem).1.1
  have hb : (subscribeBody packetid requests).length < 268435456 := by
    rw [subscribeBody_length packetid hs]
    omega
  have hpacket := serializeSubscribe_framed buflen dup packetid hs
  by_cases hfit : buflen < packetLen (subscribeLength (requests.map Prod.fst))
  · rw [if_pos hfit] at hpacket
    simp [SubscribeTrips, hpacket]
  · rw [if_neg hfit] at hpacket
    simp only [SubscribeTrips, hpacket, store_zero]
    rw [deserializeSubscribe_framed charSigned maxcount fields _ hdup hid hr hb]
    simp [Function.comp_def]

theorem unsubscribe_trips (maxcount : Nat) (fields : UnsubscribeFields) (buf : Bytes)
    (buflen : Nat) {dup packetid : Nat} {topicFilters : List MQTTString} (hdup : dup ≤ 1)
    (hid : packetid < 65536) (hr : ∀ t ∈ topicFilters, Represented t)
    (hlen : unsubscribeLength topicFilters ≤ 268435455) :
    UnsubscribeTrips maxcount fields buf buflen dup packetid topicFilters := by
  have hs : ∀ t ∈ topicFilters, t.Single := fun t hmem => (hr t hmem).1
  have hb : (unsubscribeBody packetid topicFilters).length < 268435456 := by
    rw [unsubscribeBody_length packetid hs]
    omega
  have hpacket := serializeUnsubscribe_framed buflen dup packetid hs
  by_cases hfit : buflen < packetLen (unsubscribeLength topicFilters)
  · rw [if_pos hfit] at hpacket
    simp [UnsubscribeTrips, hpacket]
  · rw [if_neg hfit] at hpacket
    simp only [UnsubscribeTrips, hpacket, store_zero]
    rw [deserializeUnsubscribe_framed maxcount fields _ hdup hid hr hb]
    simp [Function.comp_def]

theorem SubscribeTrips.bounded {charSigned : Bool} {maxcount : Nat} {fields : SubscribeFields}
    {buf : Bytes} {buflen dup packetid : Nat} {requests : List (MQTTString × Nat)}
    (hs : ∀ r ∈ requests, r.1.Single)
    (h : SubscribeTrips charSigned maxcount fields buf buflen dup packetid requests)
    (hfit : ¬buflen < packetLen (subscribeLength (requests.map Prod.fst))) :
    subscribeLength (requests.map Prod.fst) ≤ 268435455 := by
  have hpacket := serializeSubscribe_framed buflen dup packetid hs
  rw [if_neg hfit] at hpacket
  simp only [SubscribeTrips, hpacket, store_zero] at h
  obtain ⟨-, -, -, -, htexts, -⟩ := h (by rw [framed_length]; omega)
  have hsize := deserializeSubscribe_size charSigned maxcount fields
    (framed (headerByte SUBSCRIBE dup 1 0) (subscribeBody packetid requests) ++
      buf.drop (framed (headerByte SUBSCRIBE dup 1 0) (subscribeBody packetid requests)).length)
    (by rw [byteAt_framed]; exact headerType_headerByte ..)
  have hmap := congrArg (List.map fun t : Bytes => 2 + t.length + 1) htexts
  simp only [List.map_map, Function.comp_def] at hmap
  rw [hmap] at hsize
  rw [subscribeLength_eq, List.map_map]
  have hstrlen : requests.map ((fun t => 2 + mqttstrlen t + 1) ∘ Prod.fst) =
      requests.map fun r => 2 + r.1.text.length + 1 :=
    List.map_congr_left fun r hmem => by rw [Function.comp_apply, (hs r hmem).strlen]
  rw [hstrlen]
  omega

theorem UnsubscribeTrips.bounded {maxcount : Nat} {fields : UnsubscribeFields} {buf : Bytes}
    {buflen dup packetid : Nat} {topicFilters : List MQTTString}
    (hs : ∀ t ∈ topicFilters, t.Single)
    (h : UnsubscribeTrips maxcount fields buf buflen dup packetid topicFilters)
    (hfit : ¬buflen < packetLen (unsubscribeLength topicFilters)) :
    unsubscribeLength topicFilters ≤ 268435455 := by
  have hpacket := serializeUnsubscribe_framed buflen dup packetid hs
  rw [if_neg hfit] at hpacket
  simp only [UnsubscribeTrips, hpacket, store_zero] at h
  obtain ⟨-, -, -, -, htexts⟩ := h (by rw [framed_length]; omega)
  have hsize := deserializeUnsubscribe_size maxcount fields
    (framed (headerByte UNSUBSCRIBE dup 1 0) (unsubscribeBody packetid topicFilters) ++
      buf.drop (framed (headerByte UNSUBSCRIBE dup 1 0)
        (unsubscribeBody packetid topicFilters)).length)
    (by rw [byteAt_framed]; exact headerType_headerByte ..)
  have hmap := congrArg (List.map fun t : Bytes => 2 + t.length) htexts
  simp only [List.map_map, Function.comp_def] at hmap
  rw [hmap] at hsize
  rw [unsubscribeLength_eq]
  have hstrlen : (topicFilters.map fun t => 2 + mqttstrlen t) =
      topicFilters.map fun t => 2 + t.text.length :=
    List.map_congr_left fun t hmem => by rw [(hs t hmem).strlen]
  rw [hstrlen]
  omega

theorem trips_iff {trips : Prop} {buflen remaining : Nat}
    (hshort : buflen < packetLen remaining → trips) (hfits : remaining ≤ 268435455 → trips)
    (hbounded : trips → ¬buflen < packetLen remaining → remaining ≤ 268435455) :
    trips ↔ buflen < packetLen remaining ∨ remaining ≤ 268435455 := by
  constructor
  · intro h
    by_cases hfit : buflen < packetLen remaining
    · exact .inl hfit
    · exact .inr (hbounded h hfit)
  · rintro (hfit | hlen)
    · exact hshort hfit
    · exact hfits hlen

theorem subscribe_round_trip_iff (charSigned : Bool) (maxcount : Nat) (fields : SubscribeFields)
    (fields' : UnsubscribeFields) (buf : Bytes) (buflen : Nat) {dup packetid : Nat}
    {requests : List (MQTTString × Nat)} (hdup : dup ≤ 1) (hid : packetid < 65536)
    (hr : ∀ r ∈ requests, Represented r.1 ∧ r.2 ≤ 2) :
    (SubscribeTrips charSigned maxcount fields buf buflen dup packetid requests ↔
      buflen < packetLen (subscribeLength (requests.map Prod.fst)) ∨
        subscribeLength (requests.map Prod.fst) ≤ 268435455) ∧
    (UnsubscribeTrips maxcount fields' buf buflen dup packetid (requests.map Prod.fst) ↔
      buflen < packetLen (unsubscribeLength (requests.map Prod.fst)) ∨
        unsubscribeLength (requests.map Prod.fst) ≤ 268435455) := by
  have hs : ∀ r ∈ requests, r.1.Single := fun r hmem => (hr r hmem).1.1
  have hfilters : ∀ t ∈ requests.map Prod.fst, Represented t := by
    intro t ht
    obtain ⟨r, hmem, rfl⟩ := List.mem_map.mp ht
    exact (hr r hmem).1
  have hsingle : ∀ t ∈ requests.map Prod.fst, t.Single := fun t ht => (hfilters t ht).1
  constructor
  · refine trips_iff ?_ ?_ fun h hfit => h.bounded hs hfit
    · intro hfit
      simp [SubscribeTrips, serializeSubscribe_framed buflen dup packetid hs, hfit]
    · exact subscribe_trips charSigned maxcount fields buf buflen hdup hid hr
  · refine trips_iff ?_ ?_ fun h hfit => h.bounded hsingle hfit
    · intro hfit
      simp [UnsubscribeTrips, serializeUnsubscribe_framed buflen dup packetid hsingle, hfit]
    · exact unsubscribe_trips maxcount fields' buf buflen hdup hid hfilters

theorem subscribe_round_trip_two_filters :
    SubscribeTrips true 2 ⟨0, 0, 0, [], []⟩ (List.replicate 100 0) 100 0 11
      [(.ofCString [97, 47, 35], 2), (.ofLenString [98], 0)] ∧
    UnsubscribeTrips 2 ⟨0, 0, 0, []⟩ (List.replicate 100 0) 100 0 11
      [.ofCString [97, 47, 35], .ofLenString [98]] := by
  have hr : ∀ r ∈ [(MQTTString.ofCString [97, 47, 35], 2), (.ofLenString [98], 0)],
      Represented r.1 ∧ r.2 ≤ 2 := by
    intro r hr
    simp only [List.mem_cons, List.not_mem_nil, or_false] at hr
    rcases hr with rfl | rfl
    · exact ⟨⟨single_ofCString _, by decide⟩, by decide⟩
    · exact ⟨⟨single_ofLenString _, by decide⟩, by decide⟩
  have h := subscribe_round_trip_iff true 2 ⟨0, 0, 0, [], []⟩ ⟨0, 0, 0, []⟩ (List.replicate 100 0)
    100 (by decide : 0 ≤ 1) (by decide : 11 < 65536) hr
  exact ⟨h.1.mpr (.inr (by decide)), h.2.mpr (.inr (by decide))⟩

def oversizedRequests : List (MQTTString × Nat) :=
  List.replicate 4096 (.ofLenString (List.replicate 65535 97), 0)

theorem oversized_single : ∀ r ∈ oversizedRequests, r.1.Single := by
  intro r hr
  rw [List.eq_of_mem_replicate hr]
  exact single_ofLenString _

theorem oversized_length :
    subscribeLength (oversizedRequests.map Prod.fst) = 268443650 ∧
      unsubscribeLength (oversizedRequests.map Prod.fst) = 268439554 := by
  have hstrlen : mqttstrlen (.ofLenString (List.replicate 65535 97)) = 65535 := by
    rw [(single_ofLenString _).strlen, text_ofLenString, List.length_replicate]
  rw [subscribeLength_eq, unsubscribeLength_eq, oversizedRequests]
  simp only [List.map_replicate, List.sum_replicate, hstrlen]
  exact ⟨rfl, rfl⟩

theorem subscribe_trip_oversized_fails :
    ¬SubscribeTrips true 4096 ⟨0, 0, 0, [], []⟩ (List.replicate 300000000 0) 300000000 0 1
        oversizedRequests ∧
      ¬UnsubscribeTrips 4096 ⟨0, 0, 0, []⟩ (List.replicate 300000000 0) 300000000 0 1
        (oversizedRequests.map Prod.fst) := by
  obtain ⟨hsub, hunsub⟩ := oversized_length
  constructor
  · intro h
    have hle := h.bounded oversized_single (by rw [hsub]; decide)
    omega
  · intro h
    have hle := h.bounded (by
      intro t ht
      obtain ⟨r, hr, rfl⟩ := List.mem_map.mp ht
      exact oversized_single r hr) (by rw [hunsub]; decide)
    omega

end MbedMqtt
