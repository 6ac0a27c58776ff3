import AppEfi.AppUtils.GetOpt
import AppEfi.AppUtils.HexStringToBuffer
import AppEfi.AtaInfo.AtaPioDataIn
import AppEfi.AtaInfo.DiscoverIdeDevice
import AppEfi.AtaInfo.DiscoveryCommands
import AppEfi.AtaInfo.DiscoveryPools
import AppEfi.AtaInfo.Transfers
import AppEfi.BootOption.AddBootOption
import AppEfi.BootOption.DumpAllBootOption
import AppEfi.BootOption.DumpBootOption
import AppEfi.BootOption.FailedAdd
import AppEfi.ConsolePrint.DrawnLines
import AppEfi.ConsolePrint.DrawsBox
import AppEfi.ConsolePrint.PrintBox
import AppEfi.CoreDump.CoreLists
import AppEfi.CoreDump.GetShortPdbFileName
import AppEfi.CoreDump.ScannedFile
import AppEfi.CoreDump.SupportFile
import AppEfi.CoreDump.SupportGuid
import AppEfi.CoreDump.SupportString
import AppEfi.DumpAcpi.DumpAcpiHEST
import AppEfi.DumpAcpi.DumpAcpiIBFT
import AppEfi.DumpAcpi.DumpAcpiMADT
import AppEfi.DumpAcpi.DumpAcpiMSCT
import AppEfi.DumpAcpi.DumpAcpiPMTT
import AppEfi.DumpAcpi.DumpAcpiTCPA
import AppEfi.DumpAcpi.DumpAcpiTableWithSign
import AppEfi.DumpAcpi.DumpPmttMemoryController
import AppEfi.DumpAcpi.DumpSelectAcpiTable
import AppEfi.DumpAcpi.StructureWalks
import AppEfi.DxeCore.DumpedDatabase
import AppEfi.DxeCore.DxeCoreDump
import AppEfi.DxeCore.LoadedImages
import AppEfi.EsrtFmpDump.CapsuleVolumes
import AppEfi.EsrtFmpDump.DumpFmpData
import AppEfi.EsrtFmpDump.EsrtFmpDumpEntrypoint
import AppEfi.EsrtFmpDump.FmpImage
import AppEfi.EsrtFmpDump.FmpPools
import AppEfi.EsrtFmpDump.ShownCapsules
import AppEfi.GetPciOprom.ProcessPciRomImage
import AppEfi.GetPciOprom.RomReads
import AppEfi.HobList.InitializeHobList
import AppEfi.HobList.ListedHobs
import AppEfi.HstiWsmtDump.DumpHsti
import AppEfi.HstiWsmtDump.DumpHstiData
import AppEfi.HstiWsmtDump.FindAcpiTable
import AppEfi.HstiWsmtDump.FoundTables
import AppEfi.Lib.Alignment
import AppEfi.Lib.BoundedWalk
import AppEfi.Lib.CountedWalk
import AppEfi.Lib.Cursor
import AppEfi.Lib.DeferredSlot
import AppEfi.Lib.DepthFirst
import AppEfi.Lib.DevicePath
import AppEfi.Lib.Dialogue
import AppEfi.Lib.Dumped
import AppEfi.Lib.Fields
import AppEfi.Lib.KeyedStore
import AppEfi.Lib.Ledger
import AppEfi.Lib.LinkedList
import AppEfi.Lib.LittleEndian
import AppEfi.Lib.Loop
import AppEfi.Lib.Memory
import AppEfi.Lib.Printing
import AppEfi.Lib.Ranges
import AppEfi.Lib.Reading
import AppEfi.Lib.RecordWalk
import AppEfi.Lib.Runs
import AppEfi.Lib.Search
import AppEfi.Lib.SelectedBlocks
import AppEfi.Lib.Stores
import AppEfi.Lib.Tokens
import AppEfi.Lib.Traced
import AppEfi.Lib.WordSum
import AppEfi.LsEfi.DebugSwitch
import AppEfi.LsEfi.DmpCapsuleStatusVariable
import AppEfi.LsEfi.DumpCapsule
import AppEfi.LsEfi.IsNestedFmpCapsule
import AppEfi.LsEfi.LsEfiSupport
import AppEfi.LsEfi.ParseData
import AppEfi.LsEfi.Spi
import AppEfi.LsEfi.UefiMain
import AppEfi.LsEfi.WrittenFiles
import AppEfi.MemoryTypeInfo.DumpMemoryTypeInfoSummary
import AppEfi.PatchMicrocode.DumpMicrocode
import AppEfi.PatchMicrocode.MicrocodeReads
import AppEfi.PcdDump.DatabaseReads
import AppEfi.PcdDump.DatabaseValues
import AppEfi.PcdDump.DefaultInfos
import AppEfi.PcdDump.DumpDxePcdProtocolInfo
import AppEfi.PcdDump.DumpNvStore
import AppEfi.PcdDump.DumpPcdDatabase
import AppEfi.PcdDump.FlashFiles
import AppEfi.PcdDump.GetFfsByName
import AppEfi.PcdDump.GetImagePcdDb
import AppEfi.PcdDump.GetSectionByType
import AppEfi.PcdDump.HasSkuData
import AppEfi.PcdDump.NvStoreLayout
import AppEfi.PcdDump.SizeTable
import AppEfi.PcdDump.SkuDelta
import AppEfi.PcdDump.SkuDeltaArea
import AppEfi.PeiCore.AddressToImageRef
import AppEfi.PeiCore.PeiCoreDumpApp
import AppEfi.PeiCore.PeiCoreDumpHob
import AppEfi.PeiCore.WalkedHob
import AppEfi.ResetCount.UefiMain
import AppEfi.SmmCore.Database
import AppEfi.SmmCore.DatabaseData
import AppEfi.SmmCore.Handler
import AppEfi.SmmCore.ProtocolFilter
import AppEfi.SmmCore.Records
import AppEfi.SmmCore.Reply
import AppEfi.SmmCore.RoundTrip
import AppEfi.SmmCore.Transfer
import AppEfi.SmmCore.TruthfulReply
import AppEfi.SmmCore.WalkedRecords
import AppEfi.SmmCore.Walkers
import AppEfi.StackUsage.StackUsageCheck
import AppEfi.Tcg2.DumpEvent2
import AppEfi.Tcg2.DumpEventLog
import AppEfi.Tcg2.EventLayout
import AppEfi.Tcg2.EventLogWalk
import AppEfi.Tcg2.EventSize
import AppEfi.Tcg2.ExpectedDigests
import AppEfi.Tcg2.ParseEventData
import AppEfi.Tcg2.ParseOption
import AppEfi.Tcg2.Tcg12Log
import AppEfi.Tcg2.UefiMain
import AppEfi.TpmEvLogDump.DumpedEvents
import AppEfi.TpmEvLogDump.DumpsEachOnce
import AppEfi.TpmEvLogDump.EfiMain
import AppEfi.TpmTcgProto.EfiMain
import AppEfi.TpmTcgProto.ReportedSize
import AppEfi.Vtd.BridgeScope
import AppEfi.Vtd.CheckPtEntry
import AppEfi.Vtd.ContextTables
import AppEfi.Vtd.DeviceScopePath
import AppEfi.Vtd.DmarReports
import AppEfi.Vtd.DmarWalks
import AppEfi.Vtd.DumpAcpiDmar
import AppEfi.Vtd.DumpExceptionRecord
import AppEfi.Vtd.DumpSecondLevelPagingEntry
import AppEfi.Vtd.ExistInRmrr
import AppEfi.Vtd.ParsedEngines
import AppEfi.Vtd.ProcessDhrd
import AppEfi.Vtd.ProcessRmrr
import AppEfi.Vtd.RegisterPciDevice
import AppEfi.Vtd.ScanPciBus
import AppEfi.Vtd.VtdDumpEntrypoint
