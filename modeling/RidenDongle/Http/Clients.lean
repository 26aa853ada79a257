import RidenDongle.Vxi.Port
import Mathlib.Data.List.Perm.Basic

/-!
# The connected clients

The table of the connected clients on the web page, and the button in each row that
disconnects the client (`send_connected_clients`, `send_client_row` and
`handle_disconnect_client_post` in `riden_http_server.cpp`, with what they call in the three
servers).

* `getConnectedClients`, `disconnectClient`: of each of the servers.
* `Servers`: their connections; `rows`: the rows of the table; `form`: the form in a row.
* `rows_handleDisconnectClientPost`: what any POST does to the table.
* `rows_pressAll`: what pressing buttons does to it, in whatever order; with the buttons of
  all rows, no client is left.

Of the library behind the Modbus TCP server, `getMaster` is a parameter, and so are the
texts of IP addresses.
-/

namespace RidenDongle

/-- What is taken from the libraries: `IPAddress::toString` and `fromString`. -/
structure AddressText where
  toString : ℕ → String
  fromString : String → Option ℕ

/-! ## The Modbus TCP server -/

/-- A connection of the Modbus TCP server. -/
structure TcpClient where
  ip : ℕ
  connected : Bool
  deriving DecidableEq

namespace TcpClient

/-- The address of the client in the slot, if it is connected. -/
def address (slot : Option TcpClient) : Option ℕ :=
  slot.bind fun c => if c.connected then some c.ip else none

/-- `RidenModbusTCP::get_connected_clients`, over the `MODBUSIP_MAX_CLIENTS` slots. -/
def getConnectedClients (tcpclient : List (Option TcpClient)) : List ℕ :=
  tcpclient.filterMap address

/-- `RidenModbusTCP::disconnect_client`; `getMaster` gives the slot of a client with this
    address. -/
def disconnectClient (getMaster : List (Option TcpClient) → ℕ → Option ℕ)
    (tcpclient : List (Option TcpClient)) (ip : ℕ) : List (Option TcpClient) :=
  match getMaster tcpclient ip with
  | some n => tcpclient.set n none
  | none => tcpclient

/-- `getMaster` finds a connected client with the address, if there is one. -/
structure Finds (getMaster : List (Option TcpClient) → ℕ → Option ℕ) : Prop where
  found : ∀ slots ip n, getMaster slots ip = some n →
    ∃ slot, slots[n]? = some slot ∧ address slot = some ip
  missed : ∀ slots ip, getMaster slots ip = none → ip ∉ getConnectedClients slots

variable {slots : List (Option TcpClient)} {n ip : ℕ}

/-- Freeing a slot takes its address out of the list. -/
theorem cons_perm_set {slot : Option TcpClient} (hslot : slots[n]? = some slot)
    (hip : address slot = some ip) :
    (ip :: getConnectedClients (slots.set n none)).Perm (getConnectedClients slots) := by
  have hfree : address none = none := rfl
  unfold getConnectedClients
  induction slots generalizing n with
  | nil => cases hslot
  | cons c slots ih =>
    cases n with
    | zero =>
      obtain rfl : c = slot := Option.some.inj hslot
      rw [List.set_cons_zero, List.filterMap_cons_none hfree, List.filterMap_cons_some hip]
    | succ n =>
      rw [List.set_cons_succ]
      have hrest := ih hslot
      cases hc : address c with
      | none => rwa [List.filterMap_cons_none hc, List.filterMap_cons_none hc]
      | some a =>
        rw [List.filterMap_cons_some hc, List.filterMap_cons_some hc]
        exact (List.Perm.swap a ip _).trans (hrest.cons a)

variable {getMaster : List (Option TcpClient) → ℕ → Option ℕ}

theorem getConnectedClients_disconnectClient (hfinds : Finds getMaster) :
    (getConnectedClients (disconnectClient getMaster slots ip)).Perm
      ((getConnectedClients slots).erase ip) := by
  rw [disconnectClient]
  cases hn : getMaster slots ip with
  | none => rw [List.erase_of_not_mem (hfinds.missed slots ip hn)]
  | some n =>
    obtain ⟨slot, hslot, hip⟩ := hfinds.found slots ip n hn
    exact (List.cons_perm_iff_perm_erase.1 (cons_perm_set hslot hip)).2

/-- Without a client to disconnect nothing changes. -/
theorem disconnectClient_of_not_mem (hfinds : Finds getMaster) (h : ip ∉ getConnectedClients slots) :
    disconnectClient getMaster slots ip = slots := by
  rw [disconnectClient]
  cases hn : getMaster slots ip with
  | none => rfl
  | some n =>
    obtain ⟨slot, hslot, hip⟩ := hfinds.found slots ip n hn
    exact absurd (List.mem_filterMap.2 ⟨slot, List.mem_of_getElem? hslot, hip⟩) h

end TcpClient

/-! ## The raw socket server -/

namespace RidenScpi

variable {α β : Type*} {s : RidenScpi α β} {ip : ℕ}

/-- `RidenScpi::get_connected_clients`. -/
def getConnectedClients (s : RidenScpi α β) : List ℕ :=
  match s.client with
  | some c => if c.connected then [c.ip] else []
  | none => []

theorem getConnectedClients_disconnectClient :
    (s.disconnectClient ip).getConnectedClients = s.getConnectedClients.erase ip := by
  rcases hc : s.client with _ | c
  · simp only [disconnectClient, getConnectedClients, hc, List.erase_nil]
  · by_cases hconn : c.connected = true
    · by_cases hip : c.ip = ip
      · simp [disconnectClient, getConnectedClients, hc, hconn, hip, stopClient]
      · simp [disconnectClient, getConnectedClients, hc, hconn, hip]
    · simp [disconnectClient, getConnectedClients, hc, hconn]

theorem disconnectClient_of_not_mem (h : ip ∉ s.getConnectedClients) :
    s.disconnectClient ip = s := by
  rcases hc : s.client with _ | c
  · simp only [disconnectClient, hc]
  · simp only [disconnectClient, hc]
    refine if_neg fun hconn => h ?_
    simp [getConnectedClients, hc, hconn.1, hconn.2]

end RidenScpi

/-! ## The VXI server -/

namespace VxiListener

variable {σ : Type*} {h : ScpiHandler σ} {l : VxiListener σ} {ip : ℕ}

/-- `VXI_Server::get_connected_clients`. -/
def getConnectedClients (l : VxiListener σ) : List ℕ :=
  match l.client with
  | some c => if c.held ∧ c.connected then [c.ip] else []
  | none => []

theorem getConnectedClients_disconnectClient :
    (l.disconnectClient h ip).getConnectedClients = l.getConnectedClients.erase ip := by
  rcases hc : l.client with _ | c
  · simp only [disconnectClient, getConnectedClients, hc, List.erase_nil]
  · by_cases hconn : c.held = true ∧ c.connected = true
    · by_cases hip : c.ip = ip
      · simp [disconnectClient, getConnectedClients, hc, hconn, hip]
      · simp [disconnectClient, getConnectedClients, hc, hconn, hip]
    · have hnot : ¬(c.held = true ∧ c.connected = true ∧ c.ip = ip) := fun h => hconn ⟨h.1, h.2.1⟩
      simp only [disconnectClient, getConnectedClients, hc, if_neg hnot, if_neg hconn,
        List.erase_nil]

theorem disconnectClient_of_not_mem (hip : ip ∉ l.getConnectedClients) :
    l.disconnectClient h ip = l := by
  refine disconnectClient_of_not ?_
  rintro ⟨c, hc, hheld, hconn, rfl⟩
  refine hip ?_
  simp [getConnectedClients, hc, hheld, hconn]

end VxiListener

/-! ## The page -/

/-- The connections of the three servers; the raw socket server is the SCPI side of the
    VXI server. -/
structure Servers where
  vxi : VxiListener (RidenScpi UInt8 UInt8)
  tcpclient : List (Option TcpClient)

namespace RidenHttpServer

def scpiProtocol : String := "SCPI RAW"
def modbustcpProtocol : String := "Modbus TCP"
def vxi11Protocol : String := "VXI-11"

/-- The protocols of the rows. -/
inductive ClientProtocol
  | vxi11
  | scpi
  | modbustcp
  deriving DecidableEq

def ClientProtocol.text : ClientProtocol → String
  | vxi11 => vxi11Protocol
  | scpi => scpiProtocol
  | modbustcp => modbustcpProtocol

/-- A row of the table: the address and the protocol. -/
abbrev Row := ℕ × ClientProtocol

/-- The rows of the addresses of VXI clients, raw clients and Modbus TCP clients. -/
def table (vxi scpi modbus : List ℕ) : List Row :=
  vxi.map (·, .vxi11) ++ scpi.map (·, .scpi) ++ modbus.map (·, .modbustcp)

/-- The rows of `send_connected_clients`. -/
def rows (s : Servers) : List Row :=
  table s.vxi.getConnectedClients s.vxi.server.scpi.getConnectedClients
    (TcpClient.getConnectedClients s.tcpclient)

/-- The arguments `ip` and `protocol` of a POST. -/
structure DisconnectPost where
  ip : String
  protocol : String

variable (net : AddressText) (getMaster : List (Option TcpClient) → ℕ → Option ℕ)
  (parse : RidenScpi UInt8 UInt8 → List UInt8 → Execution UInt8)

/-- The form of `send_client_row`. -/
def form (row : Row) : DisconnectPost := ⟨net.toString row.1, row.2.text⟩

/-- `handle_disconnect_client_post`, up to the redirection. -/
def handleDisconnectClientPost (s : Servers) (post : DisconnectPost) : Servers :=
  match net.fromString post.ip with
  | some ip =>
    if post.protocol = scpiProtocol then
      { s with vxi := { s.vxi with server := { s.vxi.server with
        scpi := s.vxi.server.scpi.disconnectClient ip } } }
    else if post.protocol = modbustcpProtocol then
      { s with tcpclient := TcpClient.disconnectClient getMaster s.tcpclient ip }
    else if post.protocol = vxi11Protocol then
      { s with vxi := s.vxi.disconnectClient (scpiHandler parse) ip }
    else s
  | none => s

/-- The row that a POST is about. -/
def target (post : DisconnectPost) : Option Row :=
  (net.fromString post.ip).bind fun ip =>
    if post.protocol = scpiProtocol then some (ip, .scpi)
    else if post.protocol = modbustcpProtocol then some (ip, .modbustcp)
    else if post.protocol = vxi11Protocol then some (ip, .vxi11)
    else none

/-- The buttons of the rows are pressed, one after the other. -/
def pressAll (s : Servers) (rs : List Row) : Servers :=
  rs.foldl (fun s row => handleDisconnectClientPost net getMaster parse s (form net row)) s

variable {net getMaster parse} {s : Servers} {ip : ℕ}

/-- The client of a row is disconnected by the server of its protocol. -/
def disconnected (getMaster : List (Option TcpClient) → ℕ → Option ℕ)
    (parse : RidenScpi UInt8 UInt8 → List UInt8 → Execution UInt8) (s : Servers) : Row → Servers
  | (ip, .scpi) =>
    { s with vxi := { s.vxi with server := { s.vxi.server with
      scpi := s.vxi.server.scpi.disconnectClient ip } } }
  | (ip, .modbustcp) => { s with tcpclient := TcpClient.disconnectClient getMaster s.tcpclient ip }
  | (ip, .vxi11) => { s with vxi := s.vxi.disconnectClient (scpiHandler parse) ip }

theorem handleDisconnectClientPost_eq (post : DisconnectPost) :
    handleDisconnectClientPost net getMaster parse s post =
      (target net post).elim s (disconnected getMaster parse s) := by
  unfold handleDisconnectClientPost target
  cases net.fromString post.ip with
  | none => rfl
  | some ip =>
    rw [Option.bind_some]
    dsimp only
    split_ifs <;> rfl

theorem map_erase_protocol (l : List ℕ) (ip : ℕ) (p : ClientProtocol) :
    (l.map (·, p)).erase (ip, p) = (l.erase ip).map (·, p) :=
  (List.map_erase (fun _ _ h => (Prod.mk.inj h).1) l).symm

theorem not_mem_map_protocol {l : List ℕ} {p q : ClientProtocol} (h : p ≠ q) :
    (ip, p) ∉ l.map (·, q) := by
  rw [List.mem_map]
  rintro ⟨_, -, heq⟩
  exact h (Prod.mk.inj heq).2.symm

theorem erase_append_of_not_mem {α : Type*} [BEq α] [LawfulBEq α] {l l' : List α} {a : α} (h : a ∉ l') :
    (l ++ l').erase a = l.erase a ++ l' := by
  rw [List.erase_append]
  split_ifs with hmem
  · rfl
  · rw [List.erase_of_not_mem h, List.erase_of_not_mem hmem]

section

variable (vxi scpi modbus : List ℕ)

theorem erase_vxi11 :
    (table vxi scpi modbus).erase (ip, .vxi11) = table (vxi.erase ip) scpi modbus := by
  have hnot (q : ClientProtocol) (hq : .vxi11 ≠ q) (l : List ℕ) : (ip, .vxi11) ∉ l.map (·, q) :=
    not_mem_map_protocol hq
  rw [table, erase_append_of_not_mem (hnot .modbustcp (by decide) modbus),
    erase_append_of_not_mem (hnot .scpi (by decide) scpi), map_erase_protocol, table]

theorem erase_scpi :
    (table vxi scpi modbus).erase (ip, .scpi) = table vxi (scpi.erase ip) modbus := by
  have hnot (q : ClientProtocol) (hq : .scpi ≠ q) (l : List ℕ) : (ip, .scpi) ∉ l.map (·, q) :=
    not_mem_map_protocol hq
  rw [table, erase_append_of_not_mem (hnot .modbustcp (by decide) modbus),
    List.erase_append_right _ (hnot .vxi11 (by decide) vxi), map_erase_protocol, table]

theorem erase_modbustcp :
    (table vxi scpi modbus).erase (ip, .modbustcp) = table vxi scpi (modbus.erase ip) := by
  have hnot : (ip, ClientProtocol.modbustcp) ∉
      vxi.map (·, ClientProtocol.vxi11) ++ scpi.map (·, ClientProtocol.scpi) := by
    rw [List.mem_append, not_or]
    exact ⟨not_mem_map_protocol (by decide), not_mem_map_protocol (by decide)⟩
  rw [table, List.erase_append_right _ hnot, map_erase_protocol, table]

end

theorem client_releaseControl (l : VxiListener (RidenScpi UInt8 UInt8)) :
    (l.disconnectClient (scpiHandler parse) ip).server.scpi.getConnectedClients =
      l.server.scpi.getConnectedClients := by
  rcases l.disconnectClient_cases (scpiHandler parse) ip with heq | ⟨-, heq⟩
  · rw [heq]
  · rw [heq]
    rfl

/-- It loses its row, and no other is lost. -/
theorem rows_disconnected (hfinds : TcpClient.Finds getMaster) (row : Row) :
    (rows (disconnected getMaster parse s row)).Perm ((rows s).erase row) := by
  obtain ⟨ip, p⟩ := row
  cases p with
  | scpi =>
    rw [rows, rows, erase_scpi, ← RidenScpi.getConnectedClients_disconnectClient]
    exact List.Perm.refl _
  | modbustcp =>
    rw [rows, rows, erase_modbustcp]
    exact ((TcpClient.getConnectedClients_disconnectClient hfinds).map _).append_left _
  | vxi11 =>
    rw [rows, rows, erase_vxi11,
      ← VxiListener.getConnectedClients_disconnectClient (h := scpiHandler parse),
      ← @client_releaseControl parse ip s.vxi]
    exact List.Perm.refl _

/-- A row that is not in the table disconnects nobody. -/
theorem disconnected_of_not_mem (hfinds : TcpClient.Finds getMaster) {row : Row}
    (h : row ∉ rows s) : disconnected getMaster parse s row = s := by
  obtain ⟨ip, p⟩ := row
  rw [rows, table, List.mem_append, List.mem_append, not_or, not_or] at h
  cases p with
  | scpi =>
    rw [disconnected, RidenScpi.disconnectClient_of_not_mem]
    exact fun hmem => h.1.2 (List.mem_map.2 ⟨ip, hmem, rfl⟩)
  | modbustcp =>
    rw [disconnected, TcpClient.disconnectClient_of_not_mem hfinds]
    exact fun hmem => h.2 (List.mem_map.2 ⟨ip, hmem, rfl⟩)
  | vxi11 =>
    rw [disconnected, VxiListener.disconnectClient_of_not_mem]
    exact fun hmem => h.1.1 (List.mem_map.2 ⟨ip, hmem, rfl⟩)

/-- The form in a row is about this row. -/
theorem target_form {row : Row} (hip : net.fromString (net.toString row.1) = some row.1) :
    target net (form net row) = some row := by
  obtain ⟨ip, p⟩ := row
  rw [target, form, hip, Option.bind_some]
  cases p <;> rfl

/-- **Any POST.** A POST that is about a row of the table takes this row out of it, and
    leaves the others; any other POST disconnects nobody. -/
theorem rows_handleDisconnectClientPost (hfinds : TcpClient.Finds getMaster) (s : Servers)
    (post : DisconnectPost) :
    (∀ row ∈ target net post,
      (rows (handleDisconnectClientPost net getMaster parse s post)).Perm ((rows s).erase row)) ∧
    ((∀ row ∈ target net post, row ∉ rows s) →
      handleDisconnectClientPost net getMaster parse s post = s) := by
  rw [handleDisconnectClientPost_eq]
  cases target net post with
  | none => exact ⟨nofun, fun _ => rfl⟩
  | some row =>
    refine ⟨?_, fun h => disconnected_of_not_mem hfinds (h row rfl)⟩
    rintro _ ⟨⟩
    exact rows_disconnected hfinds row

theorem diff_self {α : Type*} [BEq α] [LawfulBEq α] (l : List α) : l.diff l = [] := by
  induction l with
  | nil => rfl
  | cons a l ih => rw [List.diff_cons, List.erase_cons_head, ih]

theorem pressAll_perm_diff (hfinds : TcpClient.Finds getMaster) {rs : List Row}
    (hip : ∀ row ∈ rs, net.fromString (net.toString row.1) = some row.1) (s : Servers) :
    (rows (pressAll net getMaster parse s rs)).Perm ((rows s).diff rs) := by
  induction rs generalizing s with
  | nil => exact List.Perm.refl _
  | cons row rs ih =>
    obtain ⟨hrow, hip⟩ := List.forall_mem_cons.1 hip
    have hstep : (rows (handleDisconnectClientPost net getMaster parse s (form net row))).Perm
        ((rows s).erase row) := by
      rw [handleDisconnectClientPost_eq, target_form hrow]
      exact rows_disconnected hfinds row
    rw [List.diff_cons]
    exact (ih hip _).trans (hstep.diff_right rs)

/-- **The buttons of the table.** Whichever rows have their buttons pressed, in whatever
    order, the table loses these rows and no others; with the buttons of all rows pressed,
    no client is left. -/
theorem rows_pressAll (hfinds : TcpClient.Finds getMaster) {rs : List Row}
    (hip : ∀ row ∈ rs, net.fromString (net.toString row.1) = some row.1) (s : Servers) :
    (rows (pressAll net getMaster parse s rs)).Perm ((rows s).diff rs) ∧
    (rs.Perm (rows s) → rows (pressAll net getMaster parse s rs) = []) := by
  have hperm : (rows (pressAll net getMaster parse s rs)).Perm _ :=
    pressAll_perm_diff hfinds hip s
  refine ⟨hperm, fun hrs => ?_⟩
  rw [hrs.diff_left, diff_self] at hperm
  exact List.perm_nil.1 hperm

/-! ### Four clients -/

/-- The number of a dotted quad, its first part in the lowest byte. -/
def parseQuad (parts : List ℕ) (acc : ℕ) : List Char → Option ℕ
  | [] =>
    match parts ++ [acc] with
    | [a, b, c, d] => some (a + 256 * (b + 256 * (c + 256 * d)))
    | _ => none
  | c :: cs =>
    if c.isDigit then
      let acc := acc * 10 + (c.toNat - 48)
      if 255 < acc then none else parseQuad parts acc cs
    else if c = '.' then if parts.length = 3 then none else parseQuad (parts ++ [acc]) 0 cs
    else none

def dottedQuad : AddressText where
  toString ip := ".".intercalate
    ([ip % 256, ip / 256 % 256, ip / 256 ^ 2 % 256, ip / 256 ^ 3].map Nat.repr)
  fromString s := parseQuad [] 0 s.toList

/-- The first slot with this address. -/
def firstSlot (slots : List (Option TcpClient)) (ip : ℕ) : Option ℕ :=
  slots.findIdx? fun slot => TcpClient.address slot = some ip

theorem finds_firstSlot : TcpClient.Finds firstSlot where
  found slots ip n h := by
    obtain ⟨hn, hslot, -⟩ := List.findIdx?_eq_some_iff_getElem.1 h
    exact ⟨slots[n], List.getElem?_eq_getElem hn, by simpa using hslot⟩
  missed slots ip h := by
    rw [firstSlot, List.findIdx?_eq_none_iff] at h
    rintro hmem
    obtain ⟨slot, hslot, hip⟩ := List.mem_filterMap.1 hmem
    simpa [hip] using h slot hslot

/-- A VXI client, a raw client, and two Modbus TCP clients at one address. -/
def fourClients : Servers where
  vxi := { VxiListener.start
      (.start (fun _ => 0) (fun _ => 0) { RidenScpi.initial with client := some ⟨0, 2, true, []⟩ })
      ⟨fun _ => 0, .ofMemory fun _ => 0, fun _ => 0, .ofMemory fun _ => 0⟩ 9009 9010 with
    client := some ⟨1, true, true, []⟩ }
  tcpclient := [none, some ⟨3, true⟩, some ⟨4, false⟩, some ⟨3, true⟩]

theorem rows_handleDisconnectClientPost_four :
    (∀ row ∈ target dottedQuad ⟨"3.0.0.0", "Modbus TCP"⟩,
      (rows (handleDisconnectClientPost dottedQuad firstSlot (fun _ _ => ⟨[], false⟩) fourClients
        ⟨"3.0.0.0", "Modbus TCP"⟩)).Perm ((rows fourClients).erase row)) ∧
    ((∀ row ∈ target dottedQuad ⟨"3.0.0.0", "Modbus TCP"⟩, row ∉ rows fourClients) →
      handleDisconnectClientPost dottedQuad firstSlot (fun _ _ => ⟨[], false⟩) fourClients
        ⟨"3.0.0.0", "Modbus TCP"⟩ = fourClients) :=
  rows_handleDisconnectClientPost finds_firstSlot fourClients _

theorem rows_pressAll_four :
    (rows (pressAll dottedQuad firstSlot (fun _ _ => ⟨[], false⟩) fourClients
      [(3, .modbustcp), (1, .vxi11)])).Perm
      ((rows fourClients).diff [(3, .modbustcp), (1, .vxi11)]) ∧
    ([(3, .modbustcp), (1, .vxi11)].Perm (rows fourClients) →
      rows (pressAll dottedQuad firstSlot (fun _ _ => ⟨[], false⟩) fourClients
        [(3, .modbustcp), (1, .vxi11)]) = []) :=
  rows_pressAll finds_firstSlot (by decide +kernel) fourClients

end RidenHttpServer

end RidenDongle
