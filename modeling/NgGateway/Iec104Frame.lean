import Mathlib.Data.UInt

namespace NgGateway.Iec104Frame

def startFrame : UInt8 := 0x68

def apciFieldSize : Nat := 6

def apcictlFieldSize : Nat := 4

def apduSizeMax : Nat := 255

def identifierSize : Nat := 6

def uStartdtActive : UInt8 := 0x04

def uStartdtConfirm : UInt8 := 0x08

def uStopdtActive : UInt8 := 0x10

def uStopdtConfirm : UInt8 := 0x20

def uTestfrActive : UInt8 := 0x40

def uTestfrConfirm : UInt8 := 0x80

structure Apci where
  start : UInt8
  apduLength : UInt8
  ctrl1 : UInt8
  ctrl2 : UInt8
  ctrl3 : UInt8
  ctrl4 : UInt8
  deriving DecidableEq

structure IApci where
  sendSn : UInt16
  rcvSn : UInt16
  deriving DecidableEq

structure UApci where
  function : UInt8

structure SApci where
  rcvSn : UInt16

inductive ApciKind where
  | i (apci : IApci)
  | u (apci : UApci)
  | s (apci : SApci)

/-- An ASDU as the link layer sees it: the encoded identifier and the raw information objects. -/
structure Asdu where
  identifier : List UInt8
  raw : List UInt8
  deriving DecidableEq

structure Apdu where
  apci : Apci
  asdu : Option Asdu
  deriving DecidableEq

def ctrlNumber (lo hi : UInt8) : UInt16 :=
  (lo.toUInt16 >>> 1) + (hi.toUInt16 <<< 7)

def Apci.kind (apci : Apci) : ApciKind :=
  if apci.ctrl1 &&& 0x01 = 0 then
    .i ⟨ctrlNumber apci.ctrl1 apci.ctrl2, ctrlNumber apci.ctrl3 apci.ctrl4⟩
  else if apci.ctrl1 &&& 0x03 = 0x01 then
    .s ⟨ctrlNumber apci.ctrl3 apci.ctrl4⟩
  else
    .u ⟨apci.ctrl1 &&& 0xfc⟩

def newIframe (asdu : Asdu) (sendSn rcvSn : UInt16) : Apdu where
  apci :=
    { start := startFrame
      apduLength := UInt8.ofNat apcictlFieldSize + UInt8.ofNat identifierSize +
        UInt8.ofNat asdu.raw.length
      ctrl1 := (sendSn <<< 1).toUInt8
      ctrl2 := (sendSn >>> 7).toUInt8
      ctrl3 := (rcvSn <<< 1).toUInt8
      ctrl4 := (rcvSn >>> 7).toUInt8 }
  asdu := some asdu

def iframeWireSizeForAsdu (asdu : Asdu) : Nat :=
  apciFieldSize + identifierSize + asdu.raw.length

def newSframe (rcvSn : UInt16) : Apdu where
  apci :=
    { start := startFrame
      apduLength := UInt8.ofNat apcictlFieldSize
      ctrl1 := 0x01
      ctrl2 := 0x00
      ctrl3 := (rcvSn <<< 1).toUInt8
      ctrl4 := (rcvSn >>> 7).toUInt8 }
  asdu := none

def newUframe (function : UInt8) : Apdu where
  apci :=
    { start := startFrame
      apduLength := UInt8.ofNat apcictlFieldSize
      ctrl1 := function ||| 0x03
      ctrl2 := 0x00
      ctrl3 := 0x00
      ctrl4 := 0x00 }
  asdu := none

theorem toNat_ctrlNumber (lo hi) : (ctrlNumber lo hi).toNat = lo.toNat / 2 + hi.toNat * 128 := by
  have hlo := lo.toNat_lt
  have hhi := hi.toNat_lt
  simp only [ctrlNumber, UInt16.toNat_add, UInt16.toNat_shiftRight, UInt16.toNat_shiftLeft,
    UInt8.toNat_toUInt16]
  simp [Nat.shiftRight_eq_div_pow, Nat.shiftLeft_eq]
  omega

theorem toNat_ctrlNumber_lt (lo hi) : (ctrlNumber lo hi).toNat < 32768 := by
  have hlo := lo.toNat_lt
  have hhi := hi.toNat_lt
  rw [toNat_ctrlNumber]
  omega

theorem toNat_ctrlNumber_encode (sn : UInt16) :
    (ctrlNumber (sn <<< 1).toUInt8 (sn >>> 7).toUInt8).toNat = sn.toNat % 32768 := by
  rw [toNat_ctrlNumber]
  simp [Nat.shiftRight_eq_div_pow, Nat.shiftLeft_eq]
  omega

theorem ctrlNumber_encode {sn : UInt16} (h : sn.toNat < 32768) :
    ctrlNumber (sn <<< 1).toUInt8 (sn >>> 7).toUInt8 = sn := by
  apply UInt16.toNat_inj.mp
  rw [toNat_ctrlNumber_encode, Nat.mod_eq_of_lt h]

theorem ctrl1_iframe_and_one (sn : UInt16) : (sn <<< 1).toUInt8 &&& 0x01 = 0 := by
  apply UInt8.toNat_inj.mp
  simp [Nat.shiftLeft_eq]

theorem exists_kind_newIframe (asdu sendSn rcvSn) :
    ∃ iapci, (newIframe asdu sendSn rcvSn).apci.kind = .i iapci :=
  ⟨_, by simp only [newIframe, Apci.kind, ctrl1_iframe_and_one, if_true]; rfl⟩

theorem kind_newIframe (asdu) (hs : sendSn.toNat < 32768) (hr : rcvSn.toNat < 32768) :
    (newIframe asdu sendSn rcvSn).apci.kind = .i ⟨sendSn, rcvSn⟩ := by
  simp only [newIframe, Apci.kind, ctrl1_iframe_and_one, if_true, ctrlNumber_encode hs,
    ctrlNumber_encode hr]

theorem kind_newSframe (rcvSn) :
    (newSframe rcvSn).apci.kind = .s ⟨ctrlNumber (rcvSn <<< 1).toUInt8 (rcvSn >>> 7).toUInt8⟩ := by
  have hone : ¬(newSframe rcvSn).apci.ctrl1 &&& 0x01 = 0 := by
    change ¬(0x01 : UInt8) &&& 0x01 = 0
    decide
  have hthree : (newSframe rcvSn).apci.ctrl1 &&& 0x03 = 0x01 := by
    change (0x01 : UInt8) &&& 0x03 = 0x01
    decide
  rw [Apci.kind, if_neg hone, if_pos hthree]
  rfl

theorem or_three_and (function : UInt8) :
    (function ||| 0x03) &&& 0x01 = 0x01 ∧ (function ||| 0x03) &&& 0x03 = 0x03 := by
  have hoctet : ∀ b : BitVec 8, (b ||| 3#8) &&& 1#8 = 1#8 ∧ (b ||| 3#8) &&& 3#8 = 3#8 := by
    decide
  obtain ⟨hone, hthree⟩ := hoctet function.toBitVec
  exact ⟨UInt8.toBitVec_inj.mp hone, UInt8.toBitVec_inj.mp hthree⟩

theorem kind_newUframe (function) :
    (newUframe function).apci.kind = .u ⟨(function ||| 0x03) &&& 0xfc⟩ := by
  obtain ⟨hone, hthree⟩ := or_three_and function
  simp only [newUframe, Apci.kind, hone, hthree]
  rfl

end NgGateway.Iec104Frame
