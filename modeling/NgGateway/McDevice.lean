import Mathlib.Data.UInt

namespace NgGateway.McDevice

inductive McDeviceType where
  | sm | sd
  | x | y
  | m | l | f | v
  | b
  | d | w
  | ts | tc | tn
  | lts | ltc | ltn
  | sts | stc | stn
  | lsts | lstc | lstn
  | cs | cc | cn
  | lcs | lcc | lcn
  | sb | sw
  | dx | dy
  | z | lz
  | r | zr | rd
  deriving DecidableEq

def McDeviceType.toU8 (device : McDeviceType) : UInt8 :=
  UInt8.ofNat device.ctorIdx

def McDeviceType.isBit : McDeviceType → Bool
  | .sm | .x | .y | .m | .l | .f | .v | .b | .ts | .tc | .lts | .ltc | .sts | .stc
  | .lsts | .lstc | .cs | .cc | .lcs | .lcc | .sb | .dx | .dy => true
  | _ => false

def McDeviceType.isWord : McDeviceType → Bool
  | .sd | .d | .w | .tn | .stn | .cn | .sw | .z | .r | .zr | .rd => true
  | _ => false

def McDeviceType.isDword : McDeviceType → Bool
  | .ltn | .lstn | .lcn | .lz => true
  | _ => false

def McDeviceType.symbol : McDeviceType → String
  | .sm => "SM"
  | .sd => "SD"
  | .x => "X"
  | .y => "Y"
  | .m => "M"
  | .l => "L"
  | .f => "F"
  | .v => "V"
  | .b => "B"
  | .d => "D"
  | .w => "W"
  | .ts => "TS"
  | .tc => "TC"
  | .tn => "TN"
  | .lts => "LTS"
  | .ltc => "LTC"
  | .ltn => "LTN"
  | .sts => "STS"
  | .stc => "STC"
  | .stn => "STN"
  | .lsts => "LSTS"
  | .lstc => "LSTC"
  | .lstn => "LSTN"
  | .cs => "CS"
  | .cc => "CC"
  | .cn => "CN"
  | .lcs => "LCS"
  | .lcc => "LCC"
  | .lcn => "LCN"
  | .sb => "SB"
  | .sw => "SW"
  | .dx => "DX"
  | .dy => "DY"
  | .z => "Z"
  | .lz => "LZ"
  | .r => "R"
  | .zr => "ZR"
  | .rd => "RD"

def McDeviceType.unitSize (device : McDeviceType) : Nat :=
  if device.isDword then 4
  else if device.isWord then 2
  else 1

def McDeviceType.isForbiddenBatchWordWrite : McDeviceType → Bool
  | .lts | .ltc | .ltn | .lsts | .lstc | .lstn | .lz => true
  | _ => false

def McDeviceType.deviceCode3e : McDeviceType → Option UInt16
  | .sm => some 0x0091
  | .sd => some 0x00A9
  | .x => some 0x009C
  | .y => some 0x009D
  | .m => some 0x0090
  | .l => some 0x0092
  | .f => some 0x0093
  | .v => some 0x0094
  | .b => some 0x00A0
  | .d => some 0x00A8
  | .w => some 0x00B4
  | .ts => some 0x00C1
  | .tc => some 0x00C0
  | .tn => some 0x00C2
  | .lts => some 0x0051
  | .ltc => some 0x0050
  | .ltn => some 0x0052
  | .sts => some 0x00C7
  | .stc => some 0x00C6
  | .stn => some 0x00C8
  | .lsts => some 0x0059
  | .lstc => some 0x0058
  | .lstn => some 0x005A
  | .cs => some 0x00C4
  | .cc => some 0x00C3
  | .cn => some 0x00C5
  | .lcs => some 0x0055
  | .lcc => some 0x0054
  | .lcn => some 0x0056
  | .sb => some 0x00A1
  | .sw => some 0x00B5
  | .dx => some 0x00A2
  | .dy => some 0x00A3
  | .z => some 0x00CC
  | .lz => some 0x0062
  | .r => some 0x00AF
  | .zr => some 0x00B0
  | .rd => some 0x002C

structure McLogicalAddress where
  device : McDeviceType
  head : UInt32
  bit : Option UInt8
  deriving DecidableEq

def McDeviceType.isWordAccess (device : McDeviceType) : Bool :=
  device.isWord || device.isDword

theorem McDeviceType.isWordAccess_eq_not_isBit (device : McDeviceType) :
    device.isWordAccess = !device.isBit := by
  cases device <;> rfl

theorem McDeviceType.unitSize_le_four (device : McDeviceType) : device.unitSize ≤ 4 := by
  unfold unitSize
  split
  · exact le_rfl
  · split <;> omega

theorem McDeviceType.two_le_unitSize {device : McDeviceType} (h : device.isWordAccess = true) :
    2 ≤ device.unitSize := by
  unfold isWordAccess at h
  unfold unitSize
  split
  · omega
  · simp_all

end NgGateway.McDevice
