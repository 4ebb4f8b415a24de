import LibAds.WriteAcknowledge
import LibAds.OverlongReply
import LibAds.ServerLoop
import LibAds.LateReply
import LibAds.SendBuffer
import LibAds.StreamAlignment
import LibAds.TimeLimits
import LibAds.AddressIsolation
import LibAds.CallerBuffer
import LibAds.PacketCounter
import LibAds.PacketTimeout
import LibAds.LocalAddress
import LibAds.NetIdText
import LibAds.SymbolTable
import LibAds.AnswerDisclosure
import LibAds.ConcurrentServer
import LibAds.RemoteCalls
import LibAds.ErrorTexts
import LibAds.ClientAddress
import LibAds.ClientDump
import LibAds.TableHeap
