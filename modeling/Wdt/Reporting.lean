/-
Error codes and transfer statistics, as declared in ErrorCodes.h and Reporting.h.
The id, the encryption type and the TLS flag of a statistics object are left out:
no modelled function reads them.
-/

import Mathlib.Data.List.Basic

namespace Wdt

/-- The codes of the source, in its order; `unnamed` is a byte cast to the enumeration that
is none of them. -/
inductive ErrorCode
  | ok | error | abort | connError | connErrorRetryable | socketReadError | socketWriteError
  | byteSourceReadError | fileWriteError | memoryAllocationError | protocolError
  | versionMismatch | idMismatch | checksumMismatch | resourceNotFound | abortedByApplication
  | versionIncompatible | notFound | quotaExceeded | fewerPorts | uriParseError
  | inconsistentDirectory | invalidLog | invalidCheckpoint | noProgress
  | transferLogAcquireError | wdtTimeout | unexpectedCmdError | encryptionError
  | alreadyExists | globalCheckpointAbort | invalidRequest | senderStartTimedOut | authError
  | unnamed (byte : UInt8)
  deriving DecidableEq

namespace ErrorCode

/-- The named codes; a code's position is its value on the wire. -/
def named : List ErrorCode :=
  [ok, error, abort, connError, connErrorRetryable, socketReadError, socketWriteError,
    byteSourceReadError, fileWriteError, memoryAllocationError, protocolError,
    versionMismatch, idMismatch, checksumMismatch, resourceNotFound, abortedByApplication,
    versionIncompatible, notFound, quotaExceeded, fewerPorts, uriParseError,
    inconsistentDirectory, invalidLog, invalidCheckpoint, noProgress,
    transferLogAcquireError, wdtTimeout, unexpectedCmdError, encryptionError,
    alreadyExists, globalCheckpointAbort, invalidRequest, senderStartTimedOut, authError]

def ofByte (byte : UInt8) : ErrorCode := (named[byte.toNat]?).getD (unnamed byte)

def toByte : ErrorCode → UInt8
  | unnamed byte => byte
  | code => UInt8.ofNat (named.idxOf code)

abbrev Failure := { code : ErrorCode // code ≠ ok }

end ErrorCode

/-- The counters of a thread, or of one source. The two sender totals start at -1. -/
structure TransferStats where
  headerBytes : Int := 0
  dataBytes : Int := 0
  effectiveHeaderBytes : Int := 0
  effectiveDataBytes : Int := 0
  numFiles : Int := 0
  numBlocks : Int := 0
  failedAttempts : Int := 0
  numBlocksSend : Int := -1
  totalSenderBytes : Int := -1
  localErrCode : ErrorCode := .ok
  remoteErrCode : ErrorCode := .ok
  deriving DecidableEq

namespace TransferStats

variable (stats : TransferStats)

def addHeaderBytes (count : Int) : TransferStats :=
  { stats with headerBytes := stats.headerBytes + count }

def addDataBytes (count : Int) : TransferStats :=
  { stats with dataBytes := stats.dataBytes + count }

def addEffectiveBytes (header data : Int) : TransferStats :=
  { stats with
    effectiveHeaderBytes := stats.effectiveHeaderBytes + header
    effectiveDataBytes := stats.effectiveDataBytes + data }

def subtractEffectiveBytes (header data : Int) : TransferStats :=
  { stats with
    effectiveHeaderBytes := stats.effectiveHeaderBytes - header
    effectiveDataBytes := stats.effectiveDataBytes - data }

def incrNumBlocks : TransferStats :=
  { stats with numBlocks := stats.numBlocks + 1 }

def decrNumBlocks : TransferStats :=
  { stats with numBlocks := stats.numBlocks - 1 }

def incrFailedAttempts : TransferStats :=
  { stats with failedAttempts := stats.failedAttempts + 1 }

def setLocalErrorCode (code : ErrorCode) : TransferStats :=
  { stats with localErrCode := code }

def setRemoteErrorCode (code : ErrorCode) : TransferStats :=
  { stats with remoteErrCode := code }

/-- The sender totals survive a reset. -/
def reset : TransferStats :=
  { numBlocksSend := stats.numBlocksSend
    totalSenderBytes := stats.totalSenderBytes }

end TransferStats

end Wdt
