import MbedMqtt.Gateway.Containers
import MbedMqtt.Library.Simulation

namespace MbedMqtt.MQTTSNGW

inductive ClientListOp where
  | initializeClients (type : Nat) (lines : List (SensorNetAddress × Bytes))
  | createClient (addr : Option SensorNetAddress) (clientId : Bytes) (type : Nat)
  | createPredefinedTopic (clientId : Bytes)
  | setClientAddress (client : Nat) (addr : SensorNetAddress)
  | setForwarder (client : Nat)
  | getClient (addr : Option SensorNetAddress)
  | getClientById (clientId : Bytes)
  | getClientAt (index : Nat)
  | sweep (closed sessionStatus : Nat → Bool)

-- the pointer a caller writes through
def ClientListOp.pointer : ClientListOp → Option Nat
  | .setClientAddress client _ => some client
  | .setForwarder client => some client
  | _ => none

-- the client an operation gives, those it walks over, the list afterwards and its count
structure ClientListSeen where
  client : Option Nat
  visited : List Nat
  contents : List ListedClient
  count : Nat
  deriving DecidableEq, Repr

namespace LinkedClientList

def seen (l : LinkedClientList) (client : Option Nat) (visited : List Nat) :
    Option (LinkedClientList × ClientListSeen) :=
  l.list.contents.map fun contents =>
    (l, ⟨client, visited, contents, l.getClientCount.toNat⟩)

def gives (result : Option (LinkedClientList × Option Nat)) :
    Option (LinkedClientList × ClientListSeen) :=
  result.bind fun r => r.1.seen r.2 []

def step (l : LinkedClientList) : ClientListOp → Option (LinkedClientList × ClientListSeen)
  | .initializeClients type lines => (l.initializeClients type lines).bind fun l => l.seen none []
  | .createClient addr clientId type => gives (l.createClient addr clientId type)
  | .createPredefinedTopic clientId => gives (l.createPredefinedTopic clientId)
  | .setClientAddress client addr => gives (l.setClientAddress client addr)
  | .setForwarder client => gives (l.setForwarder client)
  | .getClient addr => (l.getClient addr).bind fun found => l.seen found []
  | .getClientById clientId => (l.getClientById clientId).bind fun found => l.seen found []
  | .getClientAt index => (l.getClientAt index).bind fun found => l.seen found []
  | .sweep closed sessionStatus =>
      (l.sweep closed sessionStatus).bind fun swept => swept.1.seen none swept.2

end LinkedClientList

namespace ClientList

theorem fresh_nil : ∀ listed ∈ ([] : List ListedClient), listed.client < 0 :=
  fun _ hmem => absurd hmem List.not_mem_nil

def initial : ClientList := ⟨[], 0, false, fresh_nil⟩

def names (list : ClientList) : List Nat := list.clients.map (·.client)

def setPredefTopic (list : ClientList) (c : Nat) : ClientList :=
  list.update c LinkedClientList.hasPredefTopic fun _ => rfl

def createPredefinedTopic (list : ClientList) (clientId : Bytes) : ClientList × Option Nat :=
  let found := list.getClientById clientId
  if list.authorize && found.isNone || decide (MAX_CLIENTS < list.clients.length) then (list, none)
  else
    match found with
    | some c => (list.setPredefTopic c, some c)
    | none =>
        ((list.newClient none clientId 0).setPredefTopic list.nextClient, some list.nextClient)

def createList (list : ClientList) (type : Nat) (lines : List (SensorNetAddress × Bytes)) :
    ClientList :=
  lines.foldl (fun list line => (list.createClient (some line.1) line.2 type).1) list

def authorized (list : ClientList) : ClientList where
  clients := list.clients
  nextClient := list.nextClient
  authorize := true
  fresh := list.fresh

def leaves (list : ClientList) (closed sessionStatus : Nat → Bool) (listed : ListedClient) : Bool :=
  closed listed.client && list.erasable listed.client (sessionStatus listed.client)

-- one sweep removes the first client that leaves and comes to none behind it
def sweep (list : ClientList) (closed sessionStatus : Nat → Bool) : ClientList × List Nat :=
  let leaves := list.leaves closed sessionStatus
  ((list.clients.find? leaves).elim list fun listed => list.remove listed.client,
    (list.clients.take (list.clients.findIdx leaves + 1)).map (·.client))

def seen (list : ClientList) (client : Option Nat) (visited : List Nat) :
    ClientList × ClientListSeen :=
  (list, ⟨client, visited, list.clients, list.clients.length⟩)

def step (list : ClientList) : ClientListOp → ClientList × ClientListSeen
  | .initializeClients type lines => (list.createList type lines).authorized.seen none []
  | .createClient addr clientId type =>
      let created := list.createClient addr clientId type
      created.1.seen created.2 []
  | .createPredefinedTopic clientId =>
      let created := list.createPredefinedTopic clientId
      created.1.seen created.2 []
  | .setClientAddress c addr => (list.setClientAddress c addr).seen (some c) []
  | .setForwarder c => (list.setForwarder c).seen (some c) []
  | .getClient addr => list.seen (addr.bind list.getClient) []
  | .getClientById clientId => list.seen (list.getClientById clientId) []
  | .getClientAt index => list.seen ((list.clients[index]?).map (·.client)) []
  | .sweep closed sessionStatus =>
      let swept := list.sweep closed sessionStatus
      swept.1.seen none swept.2

def after (list : ClientList) (op : ClientListOp) : ClientList := (list.step op).1

def holds (list : ClientList) (op : ClientListOp) : Prop := ∀ c ∈ op.pointer, c ∈ list.names

instance (list : ClientList) (op : ClientListOp) : Decidable (list.holds op) :=
  inferInstanceAs (Decidable (∀ c ∈ op.pointer, c ∈ list.names))

variable {list : ClientList} {xs ys : List ListedClient} {listed : ListedClient} {c : Nat}

def cells (clients : List ListedClient) : List (Nat × ListedClient) :=
  clients.map fun listed => (listed.client, listed)

theorem addresses_cells (clients : List ListedClient) :
    addresses (cells clients) = clients.map (·.client) := List.map_map

theorem cells_values (clients : List ListedClient) : (cells clients).map (·.2) = clients := by
  rw [cells, List.map_map]
  exact List.map_id clients

structure Split (list : ClientList) (c : Nat) (xs : List ListedClient) (listed : ListedClient)
    (ys : List ListedClient) : Prop where
  clients : list.clients = xs ++ listed :: ys
  name : listed.client = c
  before : ∀ other ∈ xs, other.client ≠ c
  behind : ∀ other ∈ ys, other.client ≠ c

namespace Split

theorem of_clients (hdistinct : list.names.Nodup) (h : list.clients = xs ++ listed :: ys) :
    list.Split listed.client xs listed ys := by
  rw [names, h, List.map_append, List.map_cons, List.nodup_middle, List.nodup_cons, List.mem_append,
    not_or] at hdistinct
  refine ⟨h, rfl, ?_, ?_⟩
  · intro other hother heq
    exact hdistinct.1.1 (heq ▸ List.mem_map_of_mem hother)
  · intro other hother heq
    exact hdistinct.1.2 (heq ▸ List.mem_map_of_mem hother)

theorem exists_of_mem (hdistinct : list.names.Nodup) (h : c ∈ list.names) :
    ∃ xs listed ys, list.Split c xs listed ys := by
  obtain ⟨listed, hlisted, rfl⟩ := List.mem_map.mp h
  obtain ⟨xs, ys, hclients⟩ := List.append_of_mem hlisted
  exact ⟨xs, listed, ys, of_clients hdistinct hclients⟩

theorem find (h : list.Split c xs listed ys) :
    list.clients.find? (fun other => other.client = c) = some listed := by
  rw [h.clients, List.find?_append, List.find?_eq_none.mpr]
  · simp [h.name]
  · intro other hother
    simpa using h.before other hother

theorem erasable (h : list.Split c xs listed ys) (sessionStatus : Bool) :
    list.erasable c sessionStatus =
      (!list.authorize && sessionStatus && (!listed.hasPredefTopic && !listed.isForwarded)) := by
  rw [ClientList.erasable, h.find]
  rfl

theorem remove (h : list.Split c xs listed ys) : (list.remove c).clients = xs ++ ys := by
  have hbefore : xs.filter (fun other => decide (other.client ≠ c)) = xs :=
    List.filter_eq_self.mpr fun other hother => decide_eq_true (h.before other hother)
  have hbehind : ys.filter (fun other => decide (other.client ≠ c)) = ys :=
    List.filter_eq_self.mpr fun other hother => decide_eq_true (h.behind other hother)
  have hself : decide (listed.client ≠ c) = false := by simp [h.name]
  change list.clients.filter (fun other => decide (other.client ≠ c)) = xs ++ ys
  rw [h.clients, List.filter_append, List.filter_cons, hbefore, hbehind, hself]
  rfl

theorem update (h : list.Split c xs listed ys) {change : ListedClient → ListedClient}
    (hchange : ∀ other, (change other).client = other.client) :
    (list.update c change hchange).clients = xs ++ change listed :: ys := by
  have hkept : ∀ others : List ListedClient, (∀ other ∈ others, other.client ≠ c) →
      others.map (fun other => if other.client = c then change other else other) = others := by
    intro others hothers
    rw [List.map_congr_left (g := id)]
    · exact List.map_id others
    · intro other hother
      exact if_neg (hothers other hother)
  change list.clients.map (fun other => if other.client = c then change other else other) = _
  rw [h.clients, List.map_append, List.map_cons, hkept xs h.before,
    hkept ys h.behind, if_pos h.name]

end Split

end ClientList

structure LinkedClientList.Represents (l : LinkedClientList) (list : ClientList) : Prop where
  carries : l.list.Carries (ClientList.cells list.clients)
  brk : l.list.heap.brk = list.nextClient
  clientCnt : l.clientCnt = UInt16.ofNat list.clients.length
  bounded : list.clients.length ≤ MAX_CLIENTS + 1
  authorize : l.authorize = list.authorize

namespace LinkedClientList

variable {l : LinkedClientList} {list : ClientList} {xs ys : List ListedClient}
  {listed : ListedClient} {c : Nat}

theorem represents_initial : initial.Represents .initial :=
  ⟨DList.carries_empty, rfl, rfl, Nat.zero_le _, rfl⟩

namespace Represents

theorem distinct (h : l.Represents list) : list.names.Nodup := by
  have hdistinct := h.carries.distinct
  rwa [ClientList.addresses_cells] at hdistinct

theorem count (h : l.Represents list) : l.clientCnt.toNat = list.clients.length := by
  have hbounded := h.bounded
  rw [h.clientCnt, UInt16.toNat_ofNat_of_lt']
  simp only [MAX_CLIENTS, UInt16.size] at hbounded ⊢
  omega

theorem seen (h : l.Represents list) (client : Option Nat) (visited : List Nat) :
    ∃ after, l.seen client visited = some (after, (list.seen client visited).2) ∧
      after.Represents (list.seen client visited).1 := by
  refine ⟨l, ?_, h⟩
  rw [LinkedClientList.seen, h.carries.chained.contents, ClientList.cells_values, getClientCount,
    h.count]
  rfl

theorem find (h : l.Represents list) (p : ListedClient → Bool) :
    l.list.find p = some ((list.clients.find? p).map (·.client)) := by
  rw [h.carries.chained.find, ClientList.cells, List.find?_map, Option.map_map]
  rfl

theorem getClient (h : l.Represents list) (addr : Option SensorNetAddress) :
    l.getClient addr = some (addr.bind list.getClient) := by
  cases addr with
  | none => rfl
  | some addr => exact h.find _

theorem getClientById (h : l.Represents list) (clientId : Bytes) :
    l.getClientById clientId = some (list.getClientById clientId) := h.find _

theorem read (h : l.Represents list) (hclients : list.clients = xs ++ listed :: ys) :
    ∃ prev, l.list.heap.read listed.client =
      some ⟨listed, prev, ys.head?.map (·.client)⟩ := by
  have hk : xs.length < (ClientList.cells list.clients).length := by simp [ClientList.cells, hclients]
  obtain ⟨prev, hread⟩ := h.carries.chained.readAt hk
  refine ⟨prev, ?_⟩
  simpa [ClientList.cells, hclients, List.getElem?_append_right, List.head?_eq_getElem?,
    Function.comp_def] using hread

theorem head_eq (h : l.Represents list) : l.list.head = list.clients.head?.map (·.client) := by
  rw [h.carries.chained.head_eq, ClientList.cells, List.head?_map, Option.map_map]
  rfl

theorem walk_eq (h : l.Represents list) (index : Nat) (hclients : list.clients = xs ++ ys) :
    walk l.list.heap index (ys.head?.map (·.client)) = some ((ys[index]?).map (·.client)) := by
  induction index generalizing xs ys with
  | zero =>
    cases ys with
    | nil => rfl
    | cons listed ys => rfl
  | succ index ih =>
    cases ys with
    | nil => rfl
    | cons listed ys =>
      obtain ⟨prev, hread⟩ := h.read hclients
      simp only [List.head?_cons, Option.map_some, walk, hread]
      have hrest : list.clients = (xs ++ [listed]) ++ ys := by
        rw [hclients, List.append_assoc]
        rfl
      exact ih hrest

theorem getClientAt (h : l.Represents list) (index : Nat) :
    l.getClientAt index = some ((list.clients[index]?).map (·.client)) := by
  rw [LinkedClientList.getClientAt, h.head_eq]
  exact h.walk_eq index (List.nil_append _).symm

theorem add (h : l.Represents list) (hroom : list.clients.length ≤ MAX_CLIENTS)
    (addr : Option SensorNetAddress) (clientId : Bytes) (type : Nat) :
    ∃ added, l.add addr clientId type = some (added, some list.nextClient) ∧
      added.Represents (list.newClient addr clientId type) := by
  obtain ⟨added, happend, hadded⟩ := h.carries.append
    ⟨list.nextClient, clientId, addr.getD .zero, type = QOSM1PROXY_TYPE, false, false⟩
  rw [h.brk] at hadded
  refine ⟨⟨added, l.clientCnt + 1, l.authorize⟩, ?_, ?_, ?_, ?_, ?_, h.authorize⟩
  · simp only [LinkedClientList.add, h.brk, happend, Option.map_some]
  · simpa [ClientList.cells, ClientList.newClient] using hadded
  · change added.heap.brk = list.nextClient + 1
    rw [DList.append_brk happend, h.brk]
  · simp only [ClientList.newClient, List.length_append, List.length_singleton, h.clientCnt,
      UInt16.ofNat_add]
    rfl
  · simp only [ClientList.newClient, List.length_append, List.length_singleton]
    omega

theorem createClient (h : l.Represents list) (addr : Option SensorNetAddress) (clientId : Bytes)
    (type : Nat) :
    ∃ created, l.createClient addr clientId type =
        some (created, (list.createClient addr clientId type).2) ∧
      created.Represents (list.createClient addr clientId type).1 := by
  simp only [LinkedClientList.createClient, ClientList.createClient, h.count, gt_iff_lt]
  split_ifs with hfull
  · exact ⟨l, rfl, h⟩
  · rw [h.getClient addr]
    cases addr.bind list.getClient with
    | some c => exact ⟨l, rfl, h⟩
    | none => exact h.add (Nat.le_of_not_lt hfull) addr clientId type

theorem modify (h : l.Represents list) (hmem : c ∈ list.names)
    (change : ListedClient → ListedClient)
    (hchange : ∀ other, (change other).client = other.client) :
    ∃ modified, l.modify c change = some (modified, some c) ∧
      modified.Represents (list.update c change hchange) := by
  obtain ⟨xs, listed, ys, hsplit⟩ := ClientList.Split.exists_of_mem h.distinct hmem
  have hcarries := h.carries
  have hcells : ClientList.cells list.clients =
      ClientList.cells xs ++ (c, listed) :: ClientList.cells ys := by
    simp [ClientList.cells, hsplit.clients, hsplit.name]
  rw [hcells] at hcarries
  obtain ⟨modified, hmodify, hmodified, hbrk⟩ := hcarries.modify change
  have hlength : (list.update c change hchange).clients.length = list.clients.length :=
    List.length_map _
  refine ⟨{ l with list := modified }, ?_, ?_, hbrk.trans h.brk, ?_, ?_, h.authorize⟩
  · rw [LinkedClientList.modify, hmodify]
    rfl
  · rw [hsplit.update hchange]
    simpa [ClientList.cells, hchange, hsplit.name] using hmodified
  · rw [hlength]
    exact h.clientCnt
  · rw [hlength]
    exact h.bounded

theorem setClientAddress (h : l.Represents list) (hmem : c ∈ list.names)
    (addr : SensorNetAddress) :
    ∃ changed, l.setClientAddress c addr = some (changed, some c) ∧
      changed.Represents (list.setClientAddress c addr) :=
  h.modify hmem (fun listed => { listed with sensorNetAddr := addr }) fun _ => rfl

theorem setForwarder (h : l.Represents list) (hmem : c ∈ list.names) :
    ∃ changed, l.setForwarder c = some (changed, some c) ∧
      changed.Represents (list.setForwarder c) :=
  h.modify hmem (fun listed => { listed with isQoSm1 := false, isForwarded := true }) fun _ => rfl

theorem createPredefinedTopic (h : l.Represents list) (clientId : Bytes) :
    ∃ created, l.createPredefinedTopic clientId =
        some (created, (list.createPredefinedTopic clientId).2) ∧
      created.Represents (list.createPredefinedTopic clientId).1 := by
  simp only [LinkedClientList.createPredefinedTopic, ClientList.createPredefinedTopic,
    h.getClientById, h.count, h.authorize, Bool.or_eq_true, decide_eq_true_eq]
  by_cases hrefused : (list.authorize && (list.getClientById clientId).isNone) = true
  · rw [if_pos hrefused, if_pos (.inl hrefused)]
    exact ⟨l, rfl, h⟩
  · rw [if_neg hrefused]
    split_ifs with hfull hrest hrest
    · exact ⟨l, rfl, h⟩
    · exact absurd (.inr hfull) hrest
    · exact absurd hrest (not_or_intro hrefused hfull)
    · cases hfound : list.getClientById clientId with
      | some c =>
        obtain ⟨listed, hlisted, rfl⟩ := Option.map_eq_some_iff.mp hfound
        have hmem : listed.client ∈ list.names :=
          List.mem_map_of_mem (List.mem_of_find?_eq_some hlisted)
        exact h.modify hmem hasPredefTopic fun _ => rfl
      | none =>
        obtain ⟨added, hadd, hadded⟩ := h.add (Nat.le_of_not_lt hfull) none clientId 0
        have hmem : list.nextClient ∈ (list.newClient none clientId 0).names := by
          simp [ClientList.names, ClientList.newClient]
        simp only [hadd, Option.bind_some, h.brk]
        exact hadded.modify hmem hasPredefTopic fun _ => rfl

theorem createList (h : l.Represents list) (type : Nat) (lines : List (SensorNetAddress × Bytes)) :
    ∃ created, l.createList type lines = some created ∧
      created.Represents (list.createList type lines) := by
  induction lines generalizing l list with
  | nil => exact ⟨l, rfl, h⟩
  | cons line lines ih =>
    obtain ⟨created, hcreate, hcreated⟩ := h.createClient (some line.1) line.2 type
    obtain ⟨after, hrest, hafter⟩ := ih hcreated
    refine ⟨after, ?_, hafter⟩
    simp only [LinkedClientList.createList, hcreate]
    exact hrest

theorem erase (h : l.Represents list) (hmem : c ∈ list.names) (sessionStatus : Bool) :
    ∃ erased, l.erase c sessionStatus =
        some (erased, if list.erasable c sessionStatus then none else some c) ∧
      erased.Represents (if list.erasable c sessionStatus then list.remove c else list) := by
  obtain ⟨xs, listed, ys, hsplit⟩ := ClientList.Split.exists_of_mem h.distinct hmem
  rw [hsplit.erasable, LinkedClientList.erase, h.authorize]
  cases hauthorize : list.authorize with
  | true => exact ⟨l, rfl, h⟩
  | false =>
    obtain ⟨prev, hread⟩ := h.read hsplit.clients
    rw [hsplit.name] at hread
    simp only [hread, Bool.false_eq_true, if_false, Bool.not_false, Bool.true_and, Bool.and_assoc]
    split_ifs with herasable
    · have hcarries := h.carries
      have hcells : ClientList.cells list.clients =
          ClientList.cells xs ++ (c, listed) :: ClientList.cells ys := by
        simp [ClientList.cells, hsplit.clients, hsplit.name]
      rw [hcells] at hcarries
      obtain ⟨-, detached, hdetach, -, hfreed⟩ := hcarries.detach
      have hlength : list.clients.length = (list.remove c).clients.length + 1 := by
        rw [hsplit.remove, hsplit.clients, List.length_append, List.length_cons,
          List.length_append]
        omega
      refine ⟨⟨detached.free c, l.clientCnt - 1, false⟩, ?_, ?_, ?_, ?_, ?_, hauthorize.symm⟩
      · rw [hdetach]
        rfl
      · rw [hsplit.remove]
        simpa [ClientList.cells] using hfreed
      · change detached.heap.brk = list.nextClient
        rw [DList.detach_brk hdetach, h.brk]
      · rw [h.clientCnt, hlength, UInt16.ofNat_add]
        exact UInt16.add_sub_cancel _ _
      · have hbounded := h.bounded
        omega
    · exact ⟨l, rfl, h⟩

theorem sweepFrom (h : l.Represents list) (closed sessionStatus : Nat → Bool)
    (hclients : list.clients = xs ++ ys) {fuel : Nat} (hfuel : ys.length < fuel) :
    ∃ swept, LinkedClientList.sweepFrom closed sessionStatus fuel l (ys.head?.map (·.client)) =
        some (swept,
          (ys.take (ys.findIdx (list.leaves closed sessionStatus) + 1)).map (·.client)) ∧
      swept.Represents ((ys.find? (list.leaves closed sessionStatus)).elim list
        fun listed => list.remove listed.client) := by
  induction ys generalizing l xs fuel with
  | nil =>
    obtain ⟨fuel, rfl⟩ := Nat.exists_eq_add_of_lt hfuel
    exact ⟨l, rfl, h⟩
  | cons listed ys ih =>
    obtain ⟨fuel, rfl⟩ : ∃ n, fuel = n + 1 := ⟨fuel - 1, by omega⟩
    have hmem : listed.client ∈ list.names := by simp [ClientList.names, hclients]
    obtain ⟨erased, herase, herased⟩ := h.erase hmem (sessionStatus listed.client)
    cases hleaves : list.leaves closed sessionStatus listed with
    | true =>
      obtain ⟨hclosed, herasable⟩ := Bool.and_eq_true_iff.mp hleaves
      rw [if_pos herasable] at herase herased
      refine ⟨erased, ?_, ?_⟩
      · simp only [List.head?_cons, Option.map_some, LinkedClientList.sweepFrom, hclosed, if_true,
          herase, List.findIdx_cons, hleaves]
        rfl
      · rw [List.find?_cons_of_pos hleaves]
        exact herased
    | false =>
      have hkept : ∃ kept, (if closed listed.client then
          l.erase listed.client (sessionStatus listed.client) else some (l, some listed.client)) =
            some (kept, some listed.client) ∧ kept.Represents list := by
        simp only [ClientList.leaves, Bool.and_eq_false_iff] at hleaves
        cases hclosed : closed listed.client with
        | false => exact ⟨l, rfl, h⟩
        | true =>
          have hkeep : list.erasable listed.client (sessionStatus listed.client) = false :=
            hleaves.resolve_left (by simp [hclosed])
          rw [hkeep] at herase herased
          exact ⟨erased, herase, herased⟩
      obtain ⟨kept, hkept, hrepresents⟩ := hkept
      obtain ⟨prev, hread⟩ := hrepresents.read hclients
      have hbehind : list.clients = (xs ++ [listed]) ++ ys := by
        rw [hclients, List.append_assoc]
        rfl
      obtain ⟨swept, hrest, hswept⟩ := ih hrepresents hbehind (Nat.lt_of_succ_lt_succ hfuel)
      refine ⟨swept, ?_, ?_⟩
      · simp only [List.head?_cons, Option.map_some, LinkedClientList.sweepFrom, hkept, hread, hrest,
          List.findIdx_cons, hleaves]
        rfl
      · rw [List.find?_cons_of_neg (by simp [hleaves])]
        exact hswept

theorem sweep (h : l.Represents list) (closed sessionStatus : Nat → Bool) :
    ∃ swept, l.sweep closed sessionStatus =
        some (swept, (list.sweep closed sessionStatus).2) ∧
      swept.Represents (list.sweep closed sessionStatus).1 := by
  have hlength : list.clients.length ≤ l.list.heap.brk := by
    simpa [ClientList.cells] using h.carries.chained.length_le
  rw [LinkedClientList.sweep, h.getClientAt, ← List.head?_eq_getElem?]
  exact h.sweepFrom closed sessionStatus (List.nil_append _).symm (Nat.lt_succ_of_le hlength)

end Represents

theorem gives_some {result : Option (LinkedClientList × Option Nat)} {client : Option Nat}
    (h : ∃ l, result = some (l, client) ∧ l.Represents list) :
    ∃ after, gives result = some (after, (list.seen client []).2) ∧
      after.Represents (list.seen client []).1 := by
  obtain ⟨l, rfl, hrepresents⟩ := h
  exact hrepresents.seen client []

theorem simulates : Simulates ClientList.holds Represents step ClientList.step where
  step := by
    intro l list op hholds h
    cases op with
    | initializeClients type lines =>
      obtain ⟨created, hcreate, hcreated⟩ := h.createList type lines
      have hauthorized : LinkedClientList.Represents { created with authorize := true }
          (list.createList type lines).authorized :=
        ⟨hcreated.carries, hcreated.brk, hcreated.clientCnt, hcreated.bounded, rfl⟩
      obtain ⟨after, hseen, hafter⟩ := hauthorized.seen none []
      exact ⟨after, by rw [step, initializeClients, hcreate]; exact hseen, hafter⟩
    | createClient addr clientId type => exact gives_some (h.createClient addr clientId type)
    | createPredefinedTopic clientId => exact gives_some (h.createPredefinedTopic clientId)
    | setClientAddress c addr => exact gives_some (h.setClientAddress (hholds c rfl) addr)
    | setForwarder c => exact gives_some (h.setForwarder (hholds c rfl))
    | getClient addr =>
      obtain ⟨after, hseen, hafter⟩ := h.seen (addr.bind list.getClient) []
      exact ⟨after, by rw [step, h.getClient]; exact hseen, hafter⟩
    | getClientById clientId =>
      obtain ⟨after, hseen, hafter⟩ := h.seen (list.getClientById clientId) []
      exact ⟨after, by rw [step, h.getClientById]; exact hseen, hafter⟩
    | getClientAt index =>
      obtain ⟨after, hseen, hafter⟩ := h.seen ((list.clients[index]?).map (·.client)) []
      exact ⟨after, by rw [step, h.getClientAt]; exact hseen, hafter⟩
    | sweep closed sessionStatus =>
      obtain ⟨swept, hsweep, hswept⟩ := h.sweep closed sessionStatus
      obtain ⟨after, hseen, hafter⟩ := hswept.seen none (list.sweep closed sessionStatus).2
      exact ⟨after, by rw [step, hsweep]; exact hseen, hafter⟩

end LinkedClientList

theorem clientChain_refines (ops : List ClientListOp)
    (h : Steps ClientList.after ClientList.holds .initial ops) :
    ∃ l, runTrace LinkedClientList.step .initial ops =
        some (l, (specTrace ClientList.step .initial ops).2) ∧
      l.list.contents = some (specTrace ClientList.step .initial ops).1.clients ∧
      l.getClientCount.toNat = (specTrace ClientList.step .initial ops).1.clients.length ∧
      l.getClientCount.toNat ≤ MAX_CLIENTS + 1 ∧
      (specTrace ClientList.step .initial ops).1.names.Nodup := by
  obtain ⟨l, hrun, hrepresents⟩ :=
    LinkedClientList.simulates.run h LinkedClientList.represents_initial
  refine ⟨l, hrun, ?_, hrepresents.count, ?_, hrepresents.distinct⟩
  · rw [hrepresents.carries.chained.contents, ClientList.cells_values]
  · exact hrepresents.count.trans_le hrepresents.bounded

theorem clientChain_refines_sweep :
    ∃ l, runTrace LinkedClientList.step .initial
        [.createClient (some ⟨1, 7⟩) [0x61] 0, .createClient (some ⟨2, 7⟩) [0x62] 0,
          .setForwarder 0, .sweep (fun _ => true) fun _ => true, .getClient (some ⟨2, 7⟩)] =
      some (l,
        [⟨some 0, [], [⟨0, [0x61], ⟨1, 7⟩, false, false, false⟩], 1⟩,
          ⟨some 1, [], [⟨0, [0x61], ⟨1, 7⟩, false, false, false⟩,
            ⟨1, [0x62], ⟨2, 7⟩, false, false, false⟩], 2⟩,
          ⟨some 0, [], [⟨0, [0x61], ⟨1, 7⟩, false, false, true⟩,
            ⟨1, [0x62], ⟨2, 7⟩, false, false, false⟩], 2⟩,
          ⟨none, [0, 1], [⟨0, [0x61], ⟨1, 7⟩, false, false, true⟩], 1⟩,
          ⟨none, [], [⟨0, [0x61], ⟨1, 7⟩, false, false, true⟩], 1⟩]) := by
  obtain ⟨l, hrun, -⟩ := clientChain_refines
    [.createClient (some ⟨1, 7⟩) [0x61] 0, .createClient (some ⟨2, 7⟩) [0x62] 0,
      .setForwarder 0, .sweep (fun _ => true) fun _ => true, .getClient (some ⟨2, 7⟩)]
    (by decide)
  exact ⟨l, hrun⟩

end MbedMqtt.MQTTSNGW
