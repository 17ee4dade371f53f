import CardTerminal.Apdu
import CardTerminal.Atr
import CardTerminal.Buffer
import CardTerminal.Bytes
import CardTerminal.Checksum
import CardTerminal.Client
import CardTerminal.Client.Call
import CardTerminal.Client.Scripted
import CardTerminal.CommandLine
import CardTerminal.Driver
import CardTerminal.Driver.Minimal
import CardTerminal.Driver.Registry
import CardTerminal.Driver.Scripted
import CardTerminal.Driver.Virtual
import CardTerminal.Error
import CardTerminal.Link
import CardTerminal.Locks
import CardTerminal.Main
import CardTerminal.Master
import CardTerminal.Packet
import CardTerminal.Program
import CardTerminal.Proofs.Action
import CardTerminal.Proofs.Apdu
import CardTerminal.Proofs.Apdu.Encodings
import CardTerminal.Proofs.Atr
import CardTerminal.Proofs.Block
import CardTerminal.Proofs.Block.Transport
import CardTerminal.Proofs.Buffer
import CardTerminal.Proofs.Checksum.Errors
import CardTerminal.Proofs.Checksum.Register
import CardTerminal.Proofs.Client.Discovery
import CardTerminal.Proofs.Client.Language
import CardTerminal.Proofs.Client.Line
import CardTerminal.Proofs.Client.Requests
import CardTerminal.Proofs.Client.Session
import CardTerminal.Proofs.Exchange
import CardTerminal.Proofs.Gbp
import CardTerminal.Proofs.Handle
import CardTerminal.Proofs.Locks
import CardTerminal.Proofs.Memory
import CardTerminal.Proofs.Packet.Chunks
import CardTerminal.Proofs.Packet.Frames
import CardTerminal.Proofs.Pts
import CardTerminal.Proofs.Reader.Agreement
import CardTerminal.Proofs.Reader.Bilingual
import CardTerminal.Proofs.Reader.Empty
import CardTerminal.Proofs.Reader.Events
import CardTerminal.Proofs.Reader.Failures
import CardTerminal.Proofs.Reader.Lost
import CardTerminal.Proofs.Reader.Parts
import CardTerminal.Proofs.Reader.Recorded
import CardTerminal.Proofs.Reader.Run
import CardTerminal.Proofs.Reader.Sessions
import CardTerminal.Proofs.Reader.Switching
import CardTerminal.Proofs.Server.Answered
import CardTerminal.Proofs.Server.Discipline
import CardTerminal.Proofs.Server.Replies
import CardTerminal.Proofs.Server.Rest
import CardTerminal.Proofs.Server.Run
import CardTerminal.Proofs.Service.Answers
import CardTerminal.Proofs.Service.Confined
import CardTerminal.Proofs.Service.Exclusive
import CardTerminal.Proofs.Service.Order
import CardTerminal.Proofs.Service.Publishing
import CardTerminal.Proofs.Service.Refusals
import CardTerminal.Proofs.Service.Run
import CardTerminal.Proofs.Status.Owners
import CardTerminal.Proofs.T0.Accounts
import CardTerminal.Proofs.T0.Beats
import CardTerminal.Proofs.T0.Card
import CardTerminal.Proofs.T0.Lengths
import CardTerminal.Proofs.T0.Modes
import CardTerminal.Proofs.T0.Rounds
import CardTerminal.Proofs.T1.Answers
import CardTerminal.Proofs.T1.Card
import CardTerminal.Proofs.T1.Course
import CardTerminal.Proofs.T1.ExactlyOnce
import CardTerminal.Proofs.T1.InStep
import CardTerminal.Proofs.T1.Reaction
import CardTerminal.Proofs.T1.Recovery
import CardTerminal.Proofs.T1.Slices
import CardTerminal.Proofs.T1.Story
import CardTerminal.Proofs.T1.WellFormed
import CardTerminal.Proofs.T1.Wire
import CardTerminal.Proofs.Text
import CardTerminal.Proofs.Tlv.Building
import CardTerminal.Proofs.Tlv.Grammar
import CardTerminal.Proofs.Tlv.Items
import CardTerminal.Proofs.Transcript
import CardTerminal.Proofs.Watched
import CardTerminal.Protocol.Block
import CardTerminal.Protocol.Engine
import CardTerminal.Protocol.Fault
import CardTerminal.Protocol.Gbp
import CardTerminal.Protocol.Handle
import CardTerminal.Protocol.Id
import CardTerminal.Protocol.Memory
import CardTerminal.Protocol.T0
import CardTerminal.Protocol.T1
import CardTerminal.Pts
import CardTerminal.Reader
import CardTerminal.Request
import CardTerminal.Server
import CardTerminal.Service
import CardTerminal.Service.Order
import CardTerminal.Settings
import CardTerminal.Settings.Environment
import CardTerminal.Settings.Scalar
import CardTerminal.Settings.Toml
import CardTerminal.Settings.Value
import CardTerminal.SocketDir
import CardTerminal.Status.Discovery
import CardTerminal.Status.File
import CardTerminal.Status.Flags
import CardTerminal.Status.Record
import CardTerminal.Status.Table
import CardTerminal.Text.Blank
import CardTerminal.Text.Decimal
import CardTerminal.Text.Quoted
import CardTerminal.Text.Utf8
import CardTerminal.Tlv
import CardTerminal.Tlv.Builder
import CardTerminal.Proofs.Checksum.Errors
