import VehicleLink.Address.Parser
import VehicleLink.Address.Printer
import VehicleLink.Config.Basic

/-!
# Configurations as named settings

A configuration is written as a list of names with settings, whatever the format it comes from.
`Config.ofSettings` reads one and `Config.settings` writes one. A setting that is not named has its
default, and a name that means nothing is passed over.
-/

namespace VehicleLink

/-- A value without the format that it was written in. -/
inductive Setting where
  | nothing
  | flag (value : Bool)
  | integer (value : Int)
  | text (value : String)
  | list (items : List Setting)
  /-- A value of a kind that no setting is of. -/
  | other

namespace Setting

/-- The truth value that the setting is. -/
def flag? : Setting → Option Bool
  | flag value => some value
  | _ => none

/-- The text that the setting is. -/
def text? : Setting → Option String
  | text value => some value
  | _ => none

/-- The text that the setting is, or nothing. -/
def optionalText? : Setting → Option (Option String)
  | nothing => some none
  | text value => some (some value)
  | _ => none

/-- The address that the setting spells. -/
def address? : Setting → Option SocketAddress
  | text value => SocketAddress.ofString? value
  | _ => none

/-- The number below `size` that the setting is. -/
def nat? (size : Nat) : Setting → Option Nat
  | integer value => if 0 ≤ value && value < size then some value.toNat else none
  | _ => none

/-- The byte that the setting is. -/
def byte? (s : Setting) : Option UInt8 := (s.nat? UInt8.size).map UInt8.ofNat

/-- The word of 32 bits that the setting is. -/
def word32? (s : Setting) : Option UInt32 := (s.nat? UInt32.size).map UInt32.ofNat

/-- The word of 64 bits that the setting is. -/
def word64? (s : Setting) : Option UInt64 := (s.nat? UInt64.size).map UInt64.ofNat

/-- The words that the setting lists. -/
def words32? : Setting → Option (List UInt32)
  | list items => items.mapM word32?
  | _ => none

/-- A number as a setting. -/
def ofNat (n : Nat) : Setting := integer n

/-- An address as a setting, spelled as it is in the log. -/
def ofAddress (a : SocketAddress) : Setting := text a.text

end Setting

namespace Config

/-- A setting that is not of the kind that its name asks for. -/
structure UnfitSetting where
  name : String
deriving DecidableEq, Repr

/-- What the settings say under the name, or else the default. -/
def lookup {α : Type} (settings : List (String × Setting)) (name : String)
    (read : Setting → Option α) (default : α) : Except UnfitSetting α :=
  match settings.lookup name with
  | none => .ok default
  | some setting =>
    match read setting with
    | some value => .ok value
    | none => .error ⟨name⟩

/-- The configuration that the settings make up. The first setting that does not fit, in the order
of the fields, is reported. -/
def ofSettings (settings : List (String × Setting)) : Except UnfitSetting Config := do
  let c : Config := {}
  let word (name : String) (default : UInt64) := lookup settings name Setting.word64? default
  return {
    serialDevice := ← lookup settings "serial_device" Setting.text? c.serialDevice
    baudRate := ← lookup settings "baud_rate" Setting.word32? c.baudRate
    hardwareFlowControl :=
      ← lookup settings "hardware_flow_control" Setting.flag? c.hardwareFlowControl
    -- Fields in the order of the configuration, so that of several unfit ones the first is
    -- reported.
    serialTxBuffer := ← word "serial_tx_buffer" c.serialTxBuffer
    serialStallTimeoutMs := ← word "serial_stall_timeout_ms" c.serialStallTimeoutMs
    serialPollIntervalUs := ← word "serial_poll_interval_us" c.serialPollIntervalUs
    bindAddress := ← lookup settings "bind_addr" Setting.address? c.bindAddress
    primaryAddress := ← lookup settings "primary_addr" Setting.address? c.primaryAddress
    injectAddress := ← lookup settings "inject_addr" Setting.address? c.injectAddress
    clientTimeoutMs := ← word "client_timeout_ms" c.clientTimeoutMs
    purgeIntervalMs := ← word "purge_interval_ms" c.purgeIntervalMs
    recvTimeoutMs := ← word "recv_timeout_ms" c.recvTimeoutMs
    aggregateMaxPayload := ← word "aggregate_max_payload" c.aggregateMaxPayload
    flushIntervalMs := ← word "flush_interval_ms" c.flushIntervalMs
    statsIntervalMs := ← word "stats_interval_ms" c.statsIntervalMs
    sendFailureLogIntervalMs :=
      ← word "send_failure_log_interval_ms" c.sendFailureLogIntervalMs
    setSystemClock := ← lookup settings "set_system_clock" Setting.flag? c.setSystemClock
    rcLockFile := ← lookup settings "rc_lock_file" Setting.optionalText? c.rcLockFile
    downlinkPriority := ← lookup settings "downlink_priority" Setting.byte? c.downlinkPriority
    uplinkPriority := ← lookup settings "uplink_priority" Setting.byte? c.uplinkPriority
    bulkTransferIds := ← lookup settings "bulk_transfer_ids" Setting.words32? c.bulkTransferIds }

/-- The settings of a configuration under their names. -/
def settings (c : Config) : List (String × Setting) :=
  [("serial_device", .text c.serialDevice),
   ("baud_rate", .ofNat c.baudRate.toNat),
   ("hardware_flow_control", .flag c.hardwareFlowControl),
   ("serial_tx_buffer", .ofNat c.serialTxBuffer.toNat),
   ("serial_stall_timeout_ms", .ofNat c.serialStallTimeoutMs.toNat),
   ("serial_poll_interval_us", .ofNat c.serialPollIntervalUs.toNat),
   ("bind_addr", .ofAddress c.bindAddress),
   ("primary_addr", .ofAddress c.primaryAddress),
   ("inject_addr", .ofAddress c.injectAddress),
   ("client_timeout_ms", .ofNat c.clientTimeoutMs.toNat),
   ("purge_interval_ms", .ofNat c.purgeIntervalMs.toNat),
   ("recv_timeout_ms", .ofNat c.recvTimeoutMs.toNat),
   ("aggregate_max_payload", .ofNat c.aggregateMaxPayload.toNat),
   ("flush_interval_ms", .ofNat c.flushIntervalMs.toNat),
   ("stats_interval_ms", .ofNat c.statsIntervalMs.toNat),
   ("send_failure_log_interval_ms", .ofNat c.sendFailureLogIntervalMs.toNat),
   ("set_system_clock", .flag c.setSystemClock),
   ("rc_lock_file", (c.rcLockFile.map Setting.text).getD .nothing),
   ("downlink_priority", .ofNat c.downlinkPriority.toNat),
   ("uplink_priority", .ofNat c.uplinkPriority.toNat),
   ("bulk_transfer_ids", .list (c.bulkTransferIds.map fun id => .ofNat id.toNat))]

end Config

end VehicleLink
