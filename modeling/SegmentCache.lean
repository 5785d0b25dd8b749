import SegmentCache.CommandLine.Basic
import SegmentCache.CommandLine.Reading
import SegmentCache.CommandLine.Run
import SegmentCache.CommandLine.Script
import SegmentCache.Config
import SegmentCache.Decimal.Binary64
import SegmentCache.Decimal.Shortest
import SegmentCache.Entry
import SegmentCache.Event
import SegmentCache.Eviction
import SegmentCache.Failure
import SegmentCache.FileFault
import SegmentCache.FileTree
import SegmentCache.Format.Config
import SegmentCache.Format.Device
import SegmentCache.Format.Entry
import SegmentCache.Format.Message
import SegmentCache.HitIndex
import SegmentCache.Json.Basic
import SegmentCache.Json.Draft
import SegmentCache.Json.Number
import SegmentCache.Json.Reading
import SegmentCache.Json.Token
import SegmentCache.Key
import SegmentCache.Locality
import SegmentCache.LockSet
import SegmentCache.Main
import SegmentCache.Message
import SegmentCache.Profile
import SegmentCache.Segment
import SegmentCache.Session
import SegmentCache.State
import SegmentCache.Store
import SegmentCache.Table
import SegmentCache.Text.Blank
import SegmentCache.Text.Combining
import SegmentCache.Text.Hidden
import SegmentCache.Text.Numeral
import SegmentCache.Text.Pieces
import SegmentCache.Text.Quoted
import SegmentCache.Text.Ranges
import SegmentCache.Text.Unassigned
import SegmentCache.Word
import SegmentCache.Proofs.ByteOrder
import SegmentCache.Proofs.HitIndex
import SegmentCache.Proofs.Key
import SegmentCache.Proofs.PathKeys
import SegmentCache.Proofs.Table
import SegmentCache.Proofs.Moves
import SegmentCache.Proofs.Coherence
import SegmentCache.Proofs.Runs
import SegmentCache.Proofs.EvictionOrder
import SegmentCache.Proofs.HitTally
import SegmentCache.Proofs.HitPairs
import SegmentCache.Proofs.TableOperations
import SegmentCache.Proofs.PlainCache
import SegmentCache.Proofs.Refinement
import SegmentCache.Proofs.Insertions
import SegmentCache.Proofs.Capacity
import SegmentCache.Proofs.Handles
import SegmentCache.Proofs.Placements
import SegmentCache.Proofs.Ownership
import SegmentCache.Proofs.Ledger
import SegmentCache.Proofs.Stopping
import SegmentCache.Proofs.Exchange
import SegmentCache.Proofs.InOrder
import SegmentCache.Proofs.Progress
import SegmentCache.Proofs.Interleavings
import SegmentCache.Proofs.Breaches
import SegmentCache.Proofs.Incarnations
import SegmentCache.Proofs.UsageCounts
import SegmentCache.Proofs.SameKeys
import SegmentCache.Proofs.Determined
import SegmentCache.Proofs.AnyOrder
import SegmentCache.Proofs.Independence
import SegmentCache.Proofs.NumberText
import SegmentCache.Proofs.Spelling
import SegmentCache.Proofs.DraftText
import SegmentCache.Proofs.Records
import SegmentCache.Proofs.Layouts
import SegmentCache.Proofs.EntryWritings
import SegmentCache.Proofs.MessageWritings
import SegmentCache.Proofs.ConfigWritings
import SegmentCache.Proofs.Provenance
import SegmentCache.Proofs.Scripts
import SegmentCache.Proofs.Playback
import SegmentCache.Proofs.PlaybackProgress
import SegmentCache.Proofs.ProgramSchedule
import SegmentCache.Proofs.Replays
import SegmentCache.Proofs.EvictionPrefix
import SegmentCache.Proofs.Overflow
import SegmentCache.Proofs.Departures
import SegmentCache.Proofs.MessageFrame
import SegmentCache.Proofs.ReadAhead
import SegmentCache.Proofs.Recitals
import SegmentCache.Proofs.Courses
import SegmentCache.Proofs.ScheduleIndependence
import SegmentCache.Proofs.SegmentEffects
import SegmentCache.Proofs.BackedObjects
import SegmentCache.Proofs.SoundConfigs
import SegmentCache.Proofs.DeviceRouting
import SegmentCache.Proofs.StoreCalls
import SegmentCache.Proofs.FreshHandles
import SegmentCache.Proofs.StoreLimit
import SegmentCache.Proofs.Summaries
import SegmentCache.Proofs.Numerals
import SegmentCache.Proofs.DeviceText
