import RidenDongle.Machine.Run
import RidenDongle.Main.Control
import RidenDongle.Main.Isolation
import RidenDongle.Main.Loop
import RidenDongle.Main.Texts
import RidenDongle.Memory.Bytes
import RidenDongle.Memory.Cells
import RidenDongle.Memory.Leftover
import RidenDongle.Memory.Traced
import RidenDongle.Rpc.Bind
import RidenDongle.Rpc.Packets
import RidenDongle.Rpc.Stale
import RidenDongle.Http.Config
import RidenDongle.Http.Control
import RidenDongle.Scpi.Basic
import RidenDongle.Scpi.Commands
import RidenDongle.Scpi.Integers
import RidenDongle.Vxi.Basic
import RidenDongle.Vxi.Bounds
import RidenDongle.Vxi.Framing
import RidenDongle.Vxi.Read
import RidenDongle.Vxi.Requests
import RidenDongle.Vxi.Stale
import RidenDongle.Modbus.Bulk
import RidenDongle.Modbus.Getters
import RidenDongle.Modbus.Master
import RidenDongle.Modbus.Presets
import RidenDongle.Modbus.Setpoint
import RidenDongle.Modbus.Setters
import RidenDongle.Modbus.Wait
import RidenDongle.Config.Basic
import RidenDongle.Config.Reload
import RidenDongle.Scpi.Framing
import RidenDongle.Vxi.Reply
import RidenDongle.Vxi.Port
import RidenDongle.Vxi.Rotation
import RidenDongle.Scpi.Output
import RidenDongle.Main.Answers
import RidenDongle.Main.Bounds
import RidenDongle.Modbus.Bridge
import RidenDongle.Vxi.Cyclic
import RidenDongle.Http.Polling
import RidenDongle.Python.Text
import RidenDongle.Http.ExtractCode
import RidenDongle.Http.InsertCode
import RidenDongle.Vxi.Session
import RidenDongle.Vxi.Discovery
import RidenDongle.Main.Service
import RidenDongle.Main.Instrument
import RidenDongle.Json.Value
import RidenDongle.Json.Text
import RidenDongle.Json.Number
import RidenDongle.Http.Status
import RidenDongle.Http.Clients
import RidenDongle.Main.Lifecycle
import RidenDongle.Html.Form
import RidenDongle.Http.ConfigForm
import RidenDongle.Main.Choices
import RidenDongle.Http.Chart
import RidenDongle.Main.Panel
