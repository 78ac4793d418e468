import Mathlib.Tactic.TypeStar

/-!
`test->state` is a signed char that both sides also send over the control
connection, so any byte can stand in it. The named values are those of
`iperf_api.h`; the values marked there as not used are left out. `Protocol`
and `Mode` are the protocol ids and `enum iperf_mode` of the same sources.
-/

namespace Iperf.TestState

abbrev StateByte := Int8

abbrev TEST_START : StateByte := 1
abbrev TEST_RUNNING : StateByte := 2
abbrev TEST_END : StateByte := 4
abbrev PARAM_EXCHANGE : StateByte := 9
abbrev CREATE_STREAMS : StateByte := 10
abbrev SERVER_TERMINATE : StateByte := 11
abbrev CLIENT_TERMINATE : StateByte := 12
abbrev EXCHANGE_RESULTS : StateByte := 13
abbrev DISPLAY_RESULTS : StateByte := 14
abbrev IPERF_START : StateByte := 15
abbrev IPERF_DONE : StateByte := 16
abbrev ACCESS_DENIED : StateByte := -1
abbrev SERVER_ERROR : StateByte := -2

inductive Protocol where
  | Ptcp
  | Pudp
  | Psctp
  | Pquic
  deriving DecidableEq, Repr

inductive Mode where
  | SENDER
  | RECEIVER
  | BIDIRECTIONAL
  deriving DecidableEq, Repr

/-- What the other side of a test has to do. -/
def Mode.complement : Mode → Mode
  | .SENDER => .RECEIVER
  | .RECEIVER => .SENDER
  | .BIDIRECTIONAL => .BIDIRECTIONAL

end Iperf.TestState
